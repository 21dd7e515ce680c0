import QuorumGate.Proofs.Concurrency.Run

/-!
# The ledger keeps the law

Each loop of the ledger writes from a copy that was stored at some time. The write takes effect only
if the copy is still the stored record, so that all that was checked of the copy holds of the record
that it replaces.
-/

namespace QuorumGate

variable {c : Conditions} {past : Chronicle} {i : Nat} {may : Event → Prop} {α : Type}
  {ok : α → Chronicle → Prop} {bad : Failure → Chronicle → Prop}
  {p : Proposal} {id correlation : Text}

/-- No matter how it fails. -/
abbrev AnyFailure : Failure → Chronicle → Prop := fun _ _ => True

namespace Safe

theorem load_bind {k : Proposal → Service α} (hm : ∀ op e, may (.failed op e))
    (hk : ∀ l p, Later c i past l → (replay c.founding l).proposal? id = some p →
      Safe c i may ok bad (k p) l)
    (hbad : ∀ e l, Within c i may past l → bad e l) :
    Safe c i may ok bad (Ledger.load id correlation >>= k) past := by
  rw [Ledger.load, Program.bind_assoc]
  refine read_bind (fun _ => rfl) (hm _) ?_ hbad
  intro l r hl hr
  cases r with
  | none => exact reject_bind fun l' hl' => hbad _ l' (.of_later (hl.trans hl'))
  | some p => exact hk l p hl (Except.ok.inj hr)

theorem policy_bind {k : Policy → Service α} (hm : ∀ op e, may (.failed op e))
    (hk : ∀ l P, Later c i past l → (replay c.founding l).policy? id = some P →
      Safe c i may ok bad (k P) l)
    (hbad : ∀ e l, Within c i may past l → bad e l) :
    Safe c i may ok bad (Policies.get id correlation >>= k) past := by
  rw [Policies.get, Program.bind_assoc]
  refine read_bind (fun _ => rfl) (hm _) ?_ hbad
  intro l r hl hr
  cases r with
  | none => exact reject_bind fun l' hl' => hbad _ l' (.of_later (hl.trans hl'))
  | some P => exact hk l P hl (Except.ok.inj hr)

end Safe

/-- A copy of a record that a call works on, and the policy that it stands under. -/
structure Copy (c : Conditions) (id : Text) (P : Policy) (p : Proposal) (past : Chronicle) :
    Prop where
  known : p ∈ written past
  id_eq : p.id = id
  policy_eq : (replay c.founding past).policy? p.policyId = some P

namespace Copy

variable {P : Policy} {q : Proposal} {after : Chronicle}

theorem of_stored (hp : (replay c.founding past).proposal? id = some p)
    (hl : Within c i may past after) (hP : (replay c.founding after).policy? p.policyId = some P) :
    Copy c id P p after :=
  ⟨hl.mem_written (mem_written_of_proposal? hp), Store.id_eq_of_proposal? hp, hP⟩

theorem within (h : Copy c id P p past) (hl : Within c i may past after) : Copy c id P p after :=
  ⟨hl.mem_written h.known, h.id_eq, hl.policy h.policy_eq⟩

theorem origin_eq (h : Copy c id P p past) (hlaw : Lawful c past)
    (hq : (replay c.founding past).proposal? id = some q) : q.origin = p.origin :=
  hlaw.origin_eq h.known (mem_written_of_proposal? hq)
    ((Store.id_eq_of_proposal? hq).trans h.id_eq.symm)

/-- All versions of a proposal stand under one policy. -/
theorem reload (h : Copy c id P p past) (hlaw : Lawful c past)
    (hq : (replay c.founding past).proposal? id = some q) : Copy c id P q past := by
  refine ⟨mem_written_of_proposal? hq, Store.id_eq_of_proposal? hq, ?_⟩
  rw [Proposal.policyId_eq_of_origin (h.origin_eq hlaw hq)]
  exact h.policy_eq

end Copy

theorem ProposalDraft.objection?_of_check {draft : ProposalDraft}
    (h : draft.check = .ok ()) : draft.objection? = none := by
  unfold check at h
  split at h
  · cases h
  · assumption

namespace Ledger

/-- A proposal that is open and was committed may be left expired. -/
theorem claims_expired (h : Lawful c past) (known : p ∈ written past)
    (still_open : p.status.isTerminal = false) (b : Option Proposal) (xs : List Execution) :
    (Event.wrote b (Store.committed (p.withStatus .expired) p.version)).Claims xs := by
  intro x hx
  have hn := h.execution_eq_none known still_open
  rw [show (Store.committed (p.withStatus .expired) p.version).execution = p.execution from rfl,
    hn] at hx
  cases hx

theorem expireWithin_safe {n : Nat} (known : p ∈ written past) (hid : p.id = id) :
    Safe c i (Event.Claims []) (fun q l => q ∈ written l ∧ q.id = id) AnyFailure
      (expireWithin id correlation n p) past := by
  induction n generalizing p past with
  | zero => exact Safe.reject fun _ _ => trivial
  | succ n ih =>
    rw [expireWithin]
    cases hopen : p.status.isTerminal with
    | true => exact Safe.done fun l hl => ⟨hl.mem_written known, hid⟩
    | false =>
      refine Safe.now_bind (fun _ => trivial) ?_
      intro t l hl ht
      refine Safe.ofExcept_bind ?_ fun _ _ _ _ => trivial
      intro expired hexpired
      have known_l := hl.mem_written known
      cases expired with
      | false => exact Safe.done fun l' hl' => ⟨hl'.mem_written known_l, hid⟩
      | true =>
        refine Safe.update_bind known_l rfl ?_ (claims_expired hl.lawful known_l hopen _ _)
          (fun _ _ => trivial) ?_ ?_ fun _ _ _ => trivial
        · intro l' hl' _
          exact .expired hopen (hl'.mem ht) hexpired
        · intro l' _ hw
          refine Safe.note_bind ?_
          intro l'' hl''
          refine Safe.done fun m hm => ⟨?_, hid⟩
          exact mem_written.2 ⟨i, _, (hl''.trans hm).mem hw⟩
        · intro l' _
          refine Safe.load_bind (fun _ _ => trivial) ?_ fun _ _ _ => trivial
          intro m q _ hq
          exact ih (mem_written_of_proposal? hq) (Store.id_eq_of_proposal? hq)

theorem expire_safe {n : Nat} (known : p ∈ written past) :
    Safe c i (Event.Claims []) (fun q l => q ∈ written l ∧ q.id = p.id) AnyFailure
      (expire n p correlation) past := expireWithin_safe known rfl

/-- Whatever comes of an expiry, the rejection after it ends the call. -/
theorem expire_then_reject {n : Nat} {r : Rejection} {β : Type} {k : β → Service α}
    (known : p ∈ written past) (hm : ∀ e, e.Claims [] → may e) :
    Safe c i may ok AnyFailure
      (do
        let _ ← expire n p correlation
        let x ← (Service.reject r : Service β)
        k x) past :=
  Safe.bind (expire_safe known) hm (fun _ _ _ _ => Safe.reject_bind fun _ _ => trivial)
    fun _ _ _ _ => trivial

namespace Signing

variable {g : Signing}

theorem checkOpen_safe (known : p ∈ written past) :
    Safe c i (Event.Claims [])
      (fun _ _ => p.status.isTerminal = false ∧ g.signer ∈ g.policy.signers ∧
        p.hasSigned g.signer = false)
      AnyFailure (g.checkOpen p) past := by
  unfold checkOpen
  cases hopen : p.status.isTerminal with
  | true => exact Safe.reject_bind fun _ _ => trivial
  | false =>
    refine Safe.now_bind (fun _ => trivial) ?_
    intro t l hl _
    refine Safe.ofExcept_bind ?_ fun _ _ _ _ => trivial
    intro expired _
    cases expired with
    | true => exact expire_then_reject (hl.mem_written known) fun _ h => h
    | false =>
      cases hmember : g.policy.signers.contains g.signer with
      | false => exact Safe.reject_bind fun _ _ => trivial
      | true =>
        cases hsigned : p.hasSigned g.signer with
        | true => exact Safe.reject fun _ _ => trivial
        | false => exact Safe.done fun _ _ => ⟨rfl, List.contains_iff_mem.1 hmember, rfl⟩

/-- The artifact of a signature has been accepted, if there is one. -/
def Accepted (g : Signing) (i : Nat) (payload : String) (past : Chronicle) : Prop :=
  ∀ data, g.data = some data → ⟨i, .verified g.signer payload data (.ok true)⟩ ∈ past

theorem checkArtifact_safe :
    Safe c i (Event.Claims []) (fun _ l => g.Accepted i p.payload l) AnyFailure
      (g.checkArtifact p) past := by
  unfold checkArtifact
  cases hdata : g.data with
  | none => exact Safe.done fun _ _ data h => by rw [hdata] at h; cases h
  | some data =>
    refine Safe.verify_bind (fun _ => trivial) ?_ fun _ _ _ => trivial
    intro verified l _ hv
    cases verified with
    | true =>
      refine Safe.done fun l' hl' data' h => ?_
      rw [hdata] at h
      cases h
      exact hl'.mem hv
    | false => exact Safe.note_bind fun _ _ => Safe.reject fun _ _ => trivial

theorem signed_safe {s : Signature} {now : Instant} (known : p ∈ written past)
    (hopen : p.status.isTerminal = false) :
    Safe c i (Event.Claims [])
      (fun q _ => p.isExpired now = .ok false ∧
        q = (p.sign s).withStatus ((p.sign s).quorumStatus g.policy))
      AnyFailure (g.signed p s now) past := by
  unfold signed
  refine Safe.ofExcept_bind ?_ fun _ _ _ _ => trivial
  intro next hnext
  obtain ⟨expired, hexpired, rfl⟩ : ∃ expired, p.isExpired now = .ok expired ∧
      next = if expired then .expired else (p.sign s).quorumStatus g.policy := by
    have hsame : (p.sign s).isExpired now = p.isExpired now := rfl
    rw [Proposal.evaluate, show (p.sign s).status = p.status from rfl, hopen, hsame] at hnext
    cases he : p.isExpired now with
    | error f => rw [he] at hnext; cases hnext
    | ok expired => rw [he] at hnext; cases hnext; exact ⟨expired, rfl, rfl⟩
  cases expired with
  | true => exact expire_then_reject known fun _ h => h
  | false =>
    have hne : (p.sign s).quorumStatus g.policy ≠ .expired :=
      Status.ne_of_isTerminal (Proposal.isTerminal_quorumStatus g.policy _) rfl
    simp only [Bool.false_eq_true, ↓reduceIte, hne]
    refine Safe.ofExcept_bind ?_ fun _ _ _ _ => trivial
    exact fun _ _ => Safe.done fun _ _ => ⟨hexpired, rfl⟩

/-- What a signing call knows of the copy that it works on. -/
structure Started (c : Conditions) (g : Signing) (i : Nat) (p : Proposal) (past : Chronicle) :
    Prop extends Copy c g.proposal g.policy p past where
  call : ∃ request correlation, ⟨i, .began (.sign g.proposal request correlation)⟩ ∈ past ∧
    g.signer = request.signer.strip ∧ g.data = request.data
  accepted : g.Accepted i p.payload past

namespace Started

theorem within {after : Chronicle} (h : g.Started c i p past) (hl : Within c i may past after) :
    g.Started c i p after where
  toCopy := h.toCopy.within hl
  call := by
    obtain ⟨request, correlation, hb, hs, hd⟩ := h.call
    exact ⟨request, correlation, hl.mem hb, hs, hd⟩
  accepted := fun data hdata => hl.mem (h.accepted data hdata)

/-- What was verified for one version holds for all of them. -/
theorem reload {q : Proposal} (h : g.Started c i p past) (hlaw : Lawful c past)
    (hq : (replay c.founding past).proposal? g.proposal = some q) : g.Started c i q past := by
  refine ⟨h.toCopy.reload hlaw hq, h.call, ?_⟩
  have same : q.payload = p.payload := by
    rw [show q.payload = q.origin.payload from rfl, h.origin_eq hlaw hq]
    rfl
  rw [same]
  exact h.accepted

/-- A signature is put on the copy that was checked, as long as that is still the stored record. -/
theorem change {s : Signature} (h : g.Started c i p past) (hopen : p.status.isTerminal = false)
    (member : g.signer ∈ g.policy.signers) (unsigned : p.hasSigned g.signer = false)
    (signer_eq : s.signer = g.signer) (data_eq : s.data = g.data)
    (drawn : ⟨i, .drew .signature s.id⟩ ∈ past) (stamped : Looked past i p s.signedAt)
    (in_window : p.isExpired s.signedAt = .ok false) :
    Change c past i p (Store.committed
      ((p.sign s).withStatus ((p.sign s).quorumStatus g.policy)) p.version) := by
  obtain ⟨request, correlation, hb, hs, hd⟩ := h.call
  rw [← h.id_eq] at hb
  refine .signed s hb h.policy_eq hopen ?_ ?_ ?_ ?_ ?_ drawn stamped in_window
  · rw [signer_eq]; exact member
  · rw [signer_eq]; exact unsigned
  · rw [signer_eq]; exact hs
  · rw [data_eq]; exact hd
  · intro data hdata
    rw [signer_eq]
    exact h.accepted data (data_eq.symm.trans hdata)

end Started

theorem recordWithin_safe {n : Nat} (h : g.Started c i p past)
    (hopen : p.status.isTerminal = false) (member : g.signer ∈ g.policy.signers)
    (unsigned : p.hasSigned g.signer = false) :
    Safe c i (Event.Claims []) (fun q l => q ∈ written l ∧ q.id = g.proposal) AnyFailure
      (g.recordWithin n p) past := by
  induction n generalizing p past with
  | zero => exact Safe.reject fun _ _ => trivial
  | succ n ih =>
    rw [recordWithin]
    refine Safe.stamp_bind h.known (fun _ => trivial) ?_
    intro now l₁ hl₁ stamped
    refine Safe.fresh_bind (fun _ => trivial) ?_
    intro sid l₂ hl₂ drawn
    have h₂ := (h.within hl₁).within hl₂
    refine Safe.bind (signed_safe h₂.known hopen) (fun _ h => h) ?_ fun _ _ _ _ => trivial
    rintro _ l₃ hl₃ ⟨in_window, rfl⟩
    have h₃ := h₂.within hl₃
    have hn : p.execution = none := hl₃.lawful.execution_eq_none h₃.known hopen
    refine Safe.update_bind h₃.known rfl ?_ ?_ (fun _ _ => trivial) ?_ ?_ fun _ _ _ => trivial
    · intro l hl _
      exact (h₃.within hl).change hopen member unsigned rfl rfl (hl.mem (hl₃.mem drawn))
        (hl.looked (hl₃.looked (hl₂.looked stamped))) in_window
    · intro x hx
      exact absurd hx (by simp [Store.committed, Proposal.withStatus, Proposal.sign, hn])
    · intro l hl hw
      refine Safe.note_bind ?_
      intro l' hl'
      refine Safe.done fun m hm => ⟨mem_written.2 ⟨i, _, hm.mem (hl'.mem hw)⟩, h₃.id_eq⟩
    · intro l₄ hl₄
      refine Safe.note_bind ?_
      intro l₅ hl₅
      by_cases hlast : n = 0
      · rw [if_pos hlast]
        exact Safe.reject fun _ _ => trivial
      · rw [if_neg hlast]
        refine Safe.load_bind (fun _ _ => trivial) ?_ fun _ _ _ => trivial
        intro l₆ q hl₆ hq
        have h₆ := (((h₃.within hl₄).within hl₅).within hl₆).reload hl₆.lawful hq
        cases hsame : q.signatures.any (Signature.same ⟨sid, g.signer, g.data, now⟩) with
        | true => exact Safe.done fun l hl => ⟨hl.mem_written h₆.known, h₆.id_eq⟩
        | false =>
          refine Safe.bind (checkOpen_safe h₆.known) (fun _ h => h) ?_ fun _ _ _ _ => trivial
          rintro _ l hl ⟨hopen', -, unsigned'⟩
          exact ih (h₆.within hl) hopen' unsigned'

end Signing

theorem sign_safe {n : Nat} {request : SigningRequest}
    (call : ⟨i, .began (.sign id request correlation)⟩ ∈ past) :
    Safe c i (Event.Claims []) (fun q l => q ∈ written l ∧ q.id = id) AnyFailure
      (sign n id request correlation) past := by
  unfold sign
  refine Safe.load_bind (fun _ _ => trivial) ?_ fun _ _ _ => trivial
  intro l₁ p hl₁ hp
  refine Safe.policy_bind (fun _ _ => trivial) ?_ fun _ _ _ => trivial
  intro l₂ policy hl₂ hpolicy
  have known := hl₂.mem_written (mem_written_of_proposal? hp)
  refine Safe.bind (Signing.checkOpen_safe known) (fun _ h => h) ?_ fun _ _ _ _ => trivial
  rintro _ l₃ hl₃ ⟨hopen, member, unsigned⟩
  refine Safe.bind Signing.checkArtifact_safe (fun _ h => h) ?_ fun _ _ _ _ => trivial
  intro _ l₄ hl₄ accepted
  have copy := ((Copy.of_stored hp hl₂ hpolicy).within hl₃).within hl₄
  have called := hl₄.mem (hl₃.mem (hl₂.mem (hl₁.mem call)))
  exact Signing.recordWithin_safe ⟨copy, ⟨request, correlation, called, rfl, rfl⟩, accepted⟩ hopen
    member unsigned

/-! ## Creation -/

theorem recoverInsert_safe :
    Safe c i (Event.Claims []) (fun q l => q ∈ written l) AnyFailure
      (recoverInsert p correlation) past := by
  unfold recoverInsert
  refine Safe.read_bind (fun _ => rfl) (fun _ => trivial) ?_ fun _ _ _ => trivial
  intro l r hl hr
  cases r with
  | none => exact Safe.reject fun _ _ => trivial
  | some q =>
    have known : q ∈ written l := mem_written_of_proposal? (Except.ok.inj hr)
    cases hsame : q.sameCreation p with
    | true =>
      simp only [hsame, ↓reduceIte]
      refine Safe.note_bind ?_
      exact fun l' hl' => Safe.done fun l'' hl'' => hl''.mem_written (hl'.mem_written known)
    | false =>
      simp only [hsame, Bool.false_eq_true, ↓reduceIte]
      exact Safe.reject fun _ _ => trivial

theorem create_safe {draft : ProposalDraft}
    (call : ⟨i, .began (.createProposal draft correlation)⟩ ∈ past) :
    Safe c i (Event.Claims []) (fun q l => q ∈ written l) AnyFailure
      (create draft correlation) past := by
  unfold create
  refine Safe.policy_bind (fun _ _ => trivial) ?_ fun _ _ _ => trivial
  intro l₁ policy hl₁ hpolicy
  refine Safe.ofExcept_bind ?_ fun _ _ _ _ => trivial
  intro _ hcheck
  refine Safe.now_bind (fun _ => trivial) ?_
  intro now l₂ hl₂ seen
  refine Safe.ofExcept_bind ?_ fun _ _ _ _ => trivial
  intro expiresAt window
  refine Safe.fresh_bind (fun _ => trivial) ?_
  intro pid l₃ hl₃ drawn
  have sound := ProposalDraft.objection?_of_check hcheck
  have policy_eq : (replay c.founding l₃).policy? draft.policyId = some policy :=
    hl₃.policy (hl₂.policy hpolicy)
  have done : ∀ l q, q ∈ written l → Safe c i (Event.Claims []) (fun q l => q ∈ written l)
      AnyFailure (do
        Service.note .info .ledger
          ("created proposal " ++ q.id ++ " for contract " ++ q.contractId ++
            s!" on {q.network.word} under policy " ++ policy.id)
        return q : Service Proposal) l := by
    intro l q hq
    refine Safe.note_bind ?_
    exact fun l' hl' => Safe.done fun l'' hl'' => hl''.mem_written (hl'.mem_written hq)
  refine Safe.write_bind ?_ (fun _ => trivial) ?_ ?_ fun _ _ _ => trivial
  · intro l hl e he
    obtain ⟨hnone, rfl⟩ := Store.changes_insertProposal _ he
    refine ⟨fun x hx => (by cases hx), hnone, ?_⟩
    exact .created (hl.mem (hl₃.mem (hl₂.mem (hl₁.mem call)))) (hl.policy policy_eq) sound
      (hl.mem (hl₃.mem seen)) window (hl.mem drawn)
  · intro l r hl hr hw
    obtain ⟨rfl, hchanges⟩ := Store.perform_insertProposal hr
    refine done _ _ ?_
    rw [hchanges]
    exact mem_written.2 ⟨i, none, by simp⟩
  · intro l hl
    exact Safe.bind recoverInsert_safe (fun _ h => h) (fun q l' _ hq => done l' q hq)
      fun _ _ _ _ => trivial

end Ledger

end QuorumGate
