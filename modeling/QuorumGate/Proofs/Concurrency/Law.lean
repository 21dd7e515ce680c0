import QuorumGate.Proofs.Concurrency.Chronicle

/-!
# The law of the chronicle

What each entry of a chronicle may be, given the entries before it: a policy is filed and a proposal
created by a call that asked for it, a record is replaced by one of four changes, and only the
holder of a claimed execution deploys, once. Nothing here speaks of programs. All that is true of
every run is drawn from this law, and the services are shown to keep it.
-/

namespace QuorumGate

theorem Status.ne_of_isTerminal {s t : Status} (hs : s.isTerminal = false)
    (ht : t.isTerminal = true) : s ≠ t := by
  rintro rfl
  rw [hs] at ht
  cases ht

@[simp] theorem Proposal.isTerminal_quorumStatus (P : Policy) (p : Proposal) :
    (p.quorumStatus P).isTerminal = false := by
  unfold quorumStatus
  split <;> rfl

/-- A proposal as it was created: what no later write touches. -/
def Proposal.origin (p : Proposal) : Proposal :=
  { p with
    signatures := []
    status := .pending
    version := 1
    executedAt := none
    execution := none }

namespace Proposal

variable (p : Proposal)

@[simp] theorem origin_sign (s : Signature) : (p.sign s).origin = p.origin := rfl
@[simp] theorem origin_withStatus (s : Status) : (p.withStatus s).origin = p.origin := rfl
@[simp] theorem origin_claim (e : Text) (t : Instant) : (p.claim e t).origin = p.origin := rfl
@[simp] theorem origin_withExecution (x : Execution) : (p.withExecution x).origin = p.origin := rfl
@[simp] theorem origin_committed (v : Int) : (Store.committed p v).origin = p.origin := rfl

theorem origin_eq_iff {p q : Proposal} : q.origin = p.origin ↔
    q.id = p.id ∧ q.policyId = p.policyId ∧ q.contractName = p.contractName ∧
      q.contractId = p.contractId ∧ q.wasmHash = p.wasmHash ∧ q.network = p.network ∧
      q.proposer = p.proposer ∧ q.description = p.description ∧ q.createdAt = p.createdAt ∧
      q.expiresAt = p.expiresAt := by
  simp [origin]

theorem policyId_eq_of_origin {p q : Proposal} (h : q.origin = p.origin) :
    q.policyId = p.policyId := (origin_eq_iff.1 h).2.1

end Proposal

/-- How a policy comes into the store. -/
inductive Filing (past : Chronicle) (i : Nat) : Policy → Prop where
  | filed {draft : PolicyDraft} {correlation id : Text} {t : Instant}
      (call : ⟨i, .began (.createPolicy draft correlation)⟩ ∈ past)
      (sound : draft.stripped.objection? = none)
      (drawn : ⟨i, .drew .policy id⟩ ∈ past) (seen : ⟨i, .saw t⟩ ∈ past) :
      Filing past i (draft.stripped.toPolicy id t)

/-- How a proposal comes into the store. -/
inductive Creation (c : Conditions) (past : Chronicle) (i : Nat) : Proposal → Prop where
  | created {draft : ProposalDraft} {correlation id : Text} {policy : Policy} {t : Instant}
      {expiresAt : Option Instant}
      (call : ⟨i, .began (.createProposal draft correlation)⟩ ∈ past)
      (policy_eq : (replay c.founding past).policy? draft.policyId = some policy)
      (sound : { draft.normalized with policyId := policy.id }.objection? = none)
      (seen : ⟨i, .saw t⟩ ∈ past) (window : policy.expiryAt t = .ok expiresAt)
      (drawn : ⟨i, .drew .proposal id⟩ ∈ past) :
      Creation c past i
        ({ draft.normalized with policyId := policy.id }.toProposal id t expiresAt)

/-- A call has looked at the clock at a time when a version of a record had been committed. -/
def Looked (past : Chronicle) (i : Nat) (p : Proposal) (t : Instant) : Prop :=
  ∃ older, ⟨i, .saw t⟩ :: older <:+ past ∧ p ∈ written older

/-- An execution is over after the claim that a record bears: when its call looked at the clock, a
version with this claim had been committed. -/
def Execution.FinishedAfter (x : Execution) (past : Chronicle) (i : Nat) (p : Proposal) : Prop :=
  ∀ t, x.finishedAt = some t → ∃ q, q.executedAt = p.executedAt ∧ Looked past i q t

/-- How a stored proposal is followed by its next version. -/
inductive Change (c : Conditions) (past : Chronicle) (i : Nat) (old : Proposal) :
    Proposal → Prop where
  | signed {policy : Policy} {request : SigningRequest} {correlation : Text} (s : Signature)
      (call : ⟨i, .began (.sign old.id request correlation)⟩ ∈ past)
      (policy_eq : (replay c.founding past).policy? old.policyId = some policy)
      (still_open : old.status.isTerminal = false)
      (member : s.signer ∈ policy.signers) (unsigned : old.hasSigned s.signer = false)
      (signer_eq : s.signer = request.signer.strip) (data_eq : s.data = request.data)
      (verified : ∀ data, s.data = some data →
        ⟨i, .verified s.signer old.payload data (.ok true)⟩ ∈ past)
      (drawn : ⟨i, .drew .signature s.id⟩ ∈ past)
      (stamped : Looked past i old s.signedAt) (in_window : old.isExpired s.signedAt = .ok false) :
      Change c past i old (Store.committed
        ((old.sign s).withStatus ((old.sign s).quorumStatus policy)) old.version)
  | expired {t : Instant} (still_open : old.status.isTerminal = false)
      (seen : ⟨i, .saw t⟩ ∈ past) (overdue : old.isExpired t = .ok true) :
      Change c past i old (Store.committed (old.withStatus .expired) old.version)
  | claimed {policy : Policy} {requested : Option Number} {correlation execution : Text}
      {t now : Instant}
      (call : ⟨i, .began (.execute old.id requested correlation)⟩ ∈ past)
      (policy_eq : (replay c.founding past).policy? old.policyId = some policy)
      (still_open : old.status.isTerminal = false)
      (quorum : policy.threshold ≤ old.signatures.length)
      (drawn : ⟨i, .drew .execution execution⟩ ∈ past)
      (seen : ⟨i, .saw t⟩ ∈ past) (in_window : old.isExpired t = .ok false)
      (stamped : Looked past i old now) :
      Change c past i old (Store.committed (old.claim execution now) old.version)
  | recorded {x y : Execution} (executed : old.status = .executed)
      (held : old.execution = some y) (once : y = x ∨ y = .started x.id)
      (final : x.outcome ≠ .inFlight) (drawn : ⟨i, .drew .execution x.id⟩ ∈ past)
      (stamped : x.FinishedAfter past i old) :
      Change c past i old (Store.committed (old.withExecution x) old.version)

/-- When a call may go to the deployer, and with which order. -/
inductive Due (c : Conditions) (past : Chronicle) (i : Nat) : Order → Prop where
  | due {p : Proposal} {x : Execution} {requested : Option Number} {asked correlation : Text}
      (call : ⟨i, .began (.execute p.id requested asked)⟩ ∈ past)
      (stored : (replay c.founding past).proposal? p.id = some p)
      (executed : p.status = .executed) (held : p.execution = some x)
      (drawn : ⟨i, .drew .execution x.id⟩ ∈ past)
      (first : ∀ o l, ⟨i, .deployed o l⟩ ∉ past) :
      Due c past i (Executions.order p correlation)

/-- What a call may add to a chronicle. -/
def Allowed (c : Conditions) (past : Chronicle) (i : Nat) : Event → Prop
  | .began call => (∀ e, ⟨i, e⟩ ∉ past) ∧ call.isReady past = true
  | .saw t => ∀ j s, ⟨j, .saw s⟩ ∈ past → c.later s t
  | .drew kind id => ∀ j, ⟨j, .drew kind id⟩ ∉ past
  | .filed p => Filing past i p
  | .wrote none p => (replay c.founding past).proposal? p.id = none ∧ Creation c past i p
  | .wrote (some old) new =>
    (replay c.founding past).proposal? new.id = some old ∧ Change c past i old new
  | .deployed o _ => Due c past i o
  | .failed .. | .verified .. => True

/-- Every entry is allowed by those before it. -/
def Lawful (c : Conditions) : Chronicle → Prop
  | [] => True
  | e :: past => Lawful c past ∧ Allowed c past e.task e.event

variable {c : Conditions} {past news : Chronicle} {i j : Nat}
variable {p q old new : Proposal} {id : Text}

theorem Lawful.of_append (h : Lawful c (news ++ past)) : Lawful c past := by
  induction news with
  | nil => exact h
  | cons e news ih => exact ih h.1

theorem Lawful.of_suffix (h : Lawful c news) (hs : past <:+ news) : Lawful c past := by
  obtain ⟨later, rfl⟩ := hs
  exact h.of_append

/-- Every entry was allowed by those before it. -/
theorem Lawful.allowed (h : Lawful c past) {e : Event} (he : ⟨i, e⟩ ∈ past) :
    ∃ older, ⟨i, e⟩ :: older <:+ past ∧ Lawful c older ∧ Allowed c older i e := by
  obtain ⟨later, older, rfl⟩ := List.append_of_mem he
  exact ⟨older, List.suffix_append later _, h.of_append⟩

/-- One draws an identifier for oneself alone. -/
theorem Lawful.drew_unique (h : Lawful c past) {kind : IdKind}
    (hi : ⟨i, .drew kind id⟩ ∈ past) (hj : ⟨j, .drew kind id⟩ ∈ past) : i = j := by
  induction past with
  | nil => cases hi
  | cons e past ih =>
    rcases List.mem_cons.1 hi with rfl | mi
    · rcases List.mem_cons.1 hj with hj | mj
      · exact (congrArg Entry.task hj).symm
      · exact absurd mj (h.2 j)
    · rcases List.mem_cons.1 hj with rfl | mj
      · exact absurd mi (h.2 i)
      · exact ih h.1 mi mj

theorem Looked.saw {t : Instant} (h : Looked past i p t) : ⟨i, .saw t⟩ ∈ past := by
  obtain ⟨older, hs, -⟩ := h
  exact hs.subset List.mem_cons_self

theorem Looked.later {t : Instant} (h : Looked past i p t) (hs : past <:+ news) :
    Looked news i p t := by
  obtain ⟨older, hs', known⟩ := h
  exact ⟨older, hs'.trans hs, known⟩

theorem Looked.head {t : Instant} (known : p ∈ written past) :
    Looked (⟨i, .saw t⟩ :: past) i p t := ⟨past, List.suffix_rfl, known⟩

theorem Execution.FinishedAfter.later {x : Execution} (h : x.FinishedAfter past i p)
    (hs : past <:+ news) (same : q.executedAt = p.executedAt) : x.FinishedAfter news i q := by
  intro t ht
  obtain ⟨r, hr, looked⟩ := h t ht
  exact ⟨r, hr.trans same.symm, looked.later hs⟩

theorem Change.id_eq (h : Change c past i old new) : new.id = old.id := by
  cases h <;> rfl

theorem Change.origin_eq (h : Change c past i old new) : new.origin = old.origin := by
  cases h <;> simp

theorem Change.version_eq (h : Change c past i old new) : new.version = old.version + 1 := by
  cases h <;> rfl

/-- A write changes what is stored under its own id, and nothing else. -/
theorem Lawful.proposal?_wrote {b : Option Proposal} (h : Lawful c (⟨i, .wrote b p⟩ :: past))
    (id : Text) : (replay c.founding (⟨i, .wrote b p⟩ :: past)).proposal? id =
      if p.id = id then some p else (replay c.founding past).proposal? id := by
  cases b with
  | none => exact Store.proposal?_insert p h.2.1 id
  | some old => exact Store.proposal?_replace p h.2.1 id

/-- What an earlier version of a record tells about a later one. -/
structure Descends (p q : Proposal) : Prop where
  origin : q.origin = p.origin
  version_le : p.version ≤ q.version
  eq_of_version : q.version = p.version → q = p
  expired : p.status = .expired → q = p
  executed : p.status = .executed → q.status = .executed ∧ q.signatures = p.signatures ∧
    q.executedAt = p.executedAt ∧ q.execution.map (·.id) = p.execution.map (·.id)
  signatures : p.signatures <+: q.signatures

theorem Descends.refl (p : Proposal) : Descends p p :=
  ⟨rfl, Int.le_refl _, fun _ => rfl, fun _ => rfl, fun h => ⟨h, rfl, rfl, rfl⟩, List.prefix_rfl⟩

theorem Descends.trans {r : Proposal} (h : Descends p q) (h' : Descends q r) : Descends p r where
  origin := h'.origin.trans h.origin
  version_le := Int.le_trans h.version_le h'.version_le
  eq_of_version := by
    intro he
    have hp := h.version_le
    have hq := h'.version_le
    rw [h'.eq_of_version (by omega), h.eq_of_version (by omega)]
  expired := by
    intro he
    have hq := h.expired he
    rw [← hq] at he
    exact (h'.expired he).trans hq
  executed := by
    intro he
    obtain ⟨hs, hg, ht, hx⟩ := h.executed he
    obtain ⟨hs', hg', ht', hx'⟩ := h'.executed hs
    exact ⟨hs', hg'.trans hg, ht'.trans ht, hx'.trans hx⟩
  signatures := h.signatures.trans h'.signatures

theorem Descends.isTerminal (h : Descends p q) (terminal : p.status.isTerminal = true) :
    q.status.isTerminal = true := by
  cases hs : p.status with
  | executed => rw [(h.executed hs).1]; rfl
  | expired => rw [h.expired hs]; exact terminal
  | pending => rw [hs] at terminal; cases terminal
  | approved => rw [hs] at terminal; cases terminal

theorem Change.descends (h : Change c past i old new) : Descends old new := by
  have hv := h.version_eq
  refine ⟨h.origin_eq, by omega, fun he => by omega, ?_, ?_, ?_⟩
  · intro he
    cases h <;> simp_all [Status.isTerminal]
  · intro he
    cases h with
    | recorded executed held once final drawn =>
      refine ⟨executed, rfl, rfl, ?_⟩
      rcases once with rfl | rfl <;>
        simp [Store.committed, Proposal.withExecution, held, Execution.started]
    | _ => simp_all [Status.isTerminal]
  · cases h with
    | signed s => exact List.prefix_append _ _
    | _ => exact List.prefix_rfl

/-- What holds of a committed version holds of the stored record, if every change keeps it. -/
theorem Lawful.stored_induction {motive : Proposal → Prop} (h : Lawful c past)
    (hp : p ∈ written past) (first : motive p)
    (changed : ∀ past i old new, Lawful c past → old ∈ written past → Change c past i old new →
      motive old → motive new) :
    ∃ q, (replay c.founding past).proposal? p.id = some q ∧ motive q := by
  induction past with
  | nil => simp [written] at hp
  | cons e past ih =>
    obtain ⟨i, b, hp⟩ := mem_written.1 hp
    rcases List.mem_cons.1 hp with rfl | hp
    · exact ⟨p, by rw [h.proposal?_wrote, if_pos rfl], first⟩
    · obtain ⟨q, hq, hm⟩ := ih h.1 (mem_written.2 ⟨i, b, hp⟩)
      obtain ⟨j, e⟩ := e
      cases e with
      | wrote a new =>
        rw [h.proposal?_wrote]
        by_cases hid : new.id = p.id
        · rw [if_pos hid]
          rw [← hid] at hq
          cases a with
          | none => rw [h.2.1] at hq; cases hq
          | some old =>
            obtain ⟨ho, hc⟩ := h.2
            rw [ho] at hq
            cases hq
            exact ⟨new, rfl, changed past j _ new h.1 (mem_written_of_proposal? ho) hc hm⟩
        · rw [if_neg hid]
          exact ⟨q, hq, hm⟩
      | _ => exact ⟨q, hq, hm⟩

/-- Every version that was ever committed has a descendant in the store. -/
theorem Lawful.descends (h : Lawful c past) (hp : p ∈ written past) :
    ∃ q, (replay c.founding past).proposal? p.id = some q ∧ Descends p q :=
  h.stored_induction hp (.refl p) fun _ _ _ _ _ _ hc hd => hd.trans hc.descends

/-- A committed version with the version number of the stored record is the stored record. -/
theorem Lawful.eq_of_version (h : Lawful c past) (hp : p ∈ written past)
    (hq : (replay c.founding past).proposal? p.id = some q) (hv : q.version = p.version) :
    q = p := by
  obtain ⟨r, hr, hd⟩ := h.descends hp
  rw [hq] at hr
  cases hr
  exact hd.eq_of_version hv

/-- All versions of a proposal are of the same origin. -/
theorem Lawful.origin_eq (h : Lawful c past) (hp : p ∈ written past)
    (hq : q ∈ written past) (hid : q.id = p.id) : q.origin = p.origin := by
  obtain ⟨r, hr, hd⟩ := h.descends hp
  obtain ⟨s, hs, he⟩ := h.descends hq
  rw [hid, hr] at hs
  cases hs
  exact he.origin.symm.trans hd.origin

/-- To prove something of every committed version: it holds at creation, every change keeps it, and
no later entry takes it away. -/
theorem Lawful.version_induction {motive : Chronicle → Proposal → Prop}
    (created : ∀ past i p, Lawful c past → Creation c past i p →
      motive (⟨i, .wrote none p⟩ :: past) p)
    (changed : ∀ past i old new, Lawful c past → old ∈ written past →
      Change c past i old new → motive past old →
      motive (⟨i, .wrote (some old) new⟩ :: past) new)
    (later : ∀ e past p, motive past p → motive (e :: past) p)
    (h : Lawful c past) (hp : p ∈ written past) : motive past p := by
  induction past generalizing p with
  | nil => simp [written] at hp
  | cons e past ih =>
    obtain ⟨i, b, hp⟩ := mem_written.1 hp
    rcases List.mem_cons.1 hp with rfl | hp
    · cases b with
      | none => exact created past i p h.1 h.2.2
      | some old =>
        have hold : old ∈ written past := mem_written_of_proposal? h.2.1
        exact changed past i old p h.1 hold h.2.2 (ih h.1 hold)
    · exact later e past p (ih h.1 (mem_written.2 ⟨i, b, hp⟩))

/-! ## Claims and their holders -/

/-- A record holds an execution exactly when it is executed. -/
theorem Lawful.executed_iff (h : Lawful c past) (hp : p ∈ written past) :
    p.status = .executed ↔ ∃ x, p.execution = some x := by
  refine h.version_induction (motive := fun _ p => p.status = .executed ↔ ∃ x, p.execution = some x)
    ?_ ?_ (fun _ _ _ hm => hm) hp
  · intro past i p _ hc
    cases hc
    simp [ProposalDraft.toProposal]
  · intro past i old new _ _ hc ih
    cases hc with
    | signed s call policy_eq still_open =>
      have hne : old.status ≠ .executed := Status.ne_of_isTerminal still_open rfl
      have hn : ∀ x, old.execution ≠ some x := fun x hx => hne (ih.2 ⟨x, hx⟩)
      have hq : ∀ policy, (old.sign s).quorumStatus policy ≠ .executed :=
        fun policy => Status.ne_of_isTerminal (Proposal.isTerminal_quorumStatus policy _) rfl
      simp only [Store.committed, Proposal.withStatus, hq, false_iff, not_exists]
      exact hn
    | expired still_open =>
      have hne : old.status ≠ .executed := Status.ne_of_isTerminal still_open rfl
      have hn : ∀ x, old.execution ≠ some x := fun x hx => hne (ih.2 ⟨x, hx⟩)
      simp [Store.committed, Proposal.withStatus, hn]
    | claimed => simp [Store.committed, Proposal.claim]
    | recorded executed => simp [Store.committed, Proposal.withExecution, executed]

theorem Lawful.execution_eq_none (h : Lawful c past) (hp : p ∈ written past)
    (ho : p.status.isTerminal = false) : p.execution = none := by
  rw [Option.eq_none_iff_forall_ne_some]
  intro x hx
  exact Status.ne_of_isTerminal ho rfl ((h.executed_iff hp).2 ⟨x, hx⟩)

/-- Only the call that drew an execution id writes records with it. -/
theorem Lawful.holder (h : Lawful c past) {b : Option Proposal} {x : Execution}
    (hp : ⟨i, .wrote b p⟩ ∈ past) (hx : p.execution = some x) :
    ⟨i, .drew .execution x.id⟩ ∈ past := by
  induction past with
  | nil => cases hp
  | cons e past ih =>
    rcases List.mem_cons.1 hp with rfl | mp
    · refine List.mem_cons_of_mem _ ?_
      cases b with
      | none =>
        obtain ⟨-, hc⟩ := h.2
        cases hc
        cases hx
      | some old =>
        have none_old := h.1.execution_eq_none (mem_written_of_proposal? h.2.1)
        obtain ⟨-, hc⟩ := h.2
        cases hc with
        | signed s call policy_eq still_open =>
          have hold : old.execution = some x := hx
          rw [none_old still_open] at hold
          cases hold
        | expired still_open =>
          have hold : old.execution = some x := hx
          rw [none_old still_open] at hold
          cases hold
        | claimed call policy_eq still_open quorum drawn =>
          cases hx
          exact drawn
        | recorded executed held once final drawn =>
          cases hx
          exact drawn
    · exact List.mem_cons_of_mem e (ih h.1 mp)

namespace Event

/-- No record is left with an execution other than the given ones. -/
def Bears (xs : List Execution) : Event → Prop
  | wrote _ p => ∀ x, p.execution = some x → x ∈ xs
  | _ => True

/-- What a call does before it deploys: no record is left with an execution other than the given
ones. -/
def Claims (xs : List Execution) : Event → Prop
  | deployed .. => False
  | e => e.Bears xs

theorem Claims.bears {xs : List Execution} {e : Event} (h : e.Claims xs) : e.Bears xs := by
  cases e with
  | deployed => cases h
  | _ => exact h

theorem Bears.mono {xs ys : List Execution} (hs : xs ⊆ ys) {e : Event} (h : e.Bears xs) :
    e.Bears ys := by
  cases e with
  | wrote b p => exact fun x hx => hs (h x hx)
  | _ => trivial

theorem Claims.mono {xs ys : List Execution} (hs : xs ⊆ ys) {e : Event} (h : e.Claims xs) :
    e.Claims ys := by
  cases e with
  | deployed => cases h
  | wrote b p => exact fun x hx => hs (h x hx)
  | _ => trivial

end Event

/-- The versions that bear an execution id are those that its holder has left. -/
theorem Lawful.execution_mem (h : Lawful c past) {xs : List Execution} {x : Execution}
    (hi : ⟨i, .drew .execution x.id⟩ ∈ past) (own : ∀ e, ⟨i, e⟩ ∈ past → e.Bears xs)
    (hp : p ∈ written past) (hx : p.execution = some x) : x ∈ xs := by
  obtain ⟨j, b, hj⟩ := mem_written.1 hp
  obtain rfl := h.drew_unique hi (h.holder hj hx)
  exact own _ hj x hx

end QuorumGate
