import QuorumGate.Proofs.Concurrency.Answers
import QuorumGate.Proofs.Concurrency.Requests

/-!
# What is signed is what is deployed

The payload of a proposal is made of what no write ever changes. So a signature that was verified
for one version holds for all of them, however long its call has had to try, and what goes to the
deployer is what the payload names.
-/

namespace QuorumGate

variable {rules : ExecutionRules} {c : Conditions} {w : World} {base past l : Chronicle} {i : Nat}
  {p q old new : Proposal} {id correlation : Text} {s : Signature} {o : Order}
  {request : SigningRequest} {may : Event → Prop}

theorem Proposal.payload_of_origin (h : q.origin = p.origin) : q.payload = p.payload := by
  have own : ∀ x : Proposal, x.payload = x.origin.payload := fun _ => rfl
  rw [own q, own p, h]

/-! ## Verified before it was stored -/

/-- The signature of a signer was put on a proposal by a call that had been told before that the
artifact is one for a payload. -/
def AcceptedBefore (past : Chronicle) (id : Text) (s : Signature) (payload : String) (data : Text) :
    Prop :=
  ∃ i news older old new, past = news ++ ⟨i, .wrote (some old) new⟩ :: older ∧ new.id = id ∧
    new.signatures = old.signatures ++ [s] ∧
    ⟨i, .verified s.signer payload data (.ok true)⟩ ∈ older

theorem AcceptedBefore.later {payload : String} {data : Text}
    (h : AcceptedBefore past id s payload data) (e : Entry) :
    AcceptedBefore (e :: past) id s payload data := by
  obtain ⟨i, news, older, old, new, rfl, known⟩ := h
  exact ⟨i, e :: news, older, old, new, rfl, known⟩

theorem Lawful.acceptedBefore (h : Lawful c past) (hp : p ∈ written past) :
    ∀ s ∈ p.signatures, ∀ data, s.data = some data →
      AcceptedBefore past p.id s p.payload data := by
  refine h.version_induction (motive := fun past p => ∀ s ∈ p.signatures, ∀ data,
    s.data = some data → AcceptedBefore past p.id s p.payload data) ?_ ?_ ?_ hp
  · intro past i p _ hc s hs
    cases hc
    cases hs
  · intro past i old new _ _ hc ih s hs data hdata
    rw [Proposal.payload_of_origin hc.origin_eq, hc.id_eq]
    have older : s ∈ old.signatures →
        AcceptedBefore (⟨i, .wrote (some old) new⟩ :: past) old.id s old.payload data :=
      fun hold => (ih s hold data hdata).later _
    cases hc with
    | signed t _ _ _ _ _ _ _ verified =>
      rcases List.mem_append.1 hs with hs | hs
      · exact older hs
      · obtain rfl := List.mem_singleton.1 hs
        exact ⟨i, [], past, old, _, rfl, rfl, rfl, verified data hdata⟩
    | _ => exact older hs
  · intro e past p ih s hs data hdata
    exact (ih s hs data hdata).later e

/-! ## Rejected and not stored -/

namespace Event

def IsVerdict : Event → Prop
  | verified .. => True
  | _ => False

/-- What a call does before it has an artifact verified and draws an id for the signature. -/
def Preliminary : Event → Prop
  | verified .. | drew .. => False
  | _ => True

theorem Preliminary.not_isVerdict {e : Event} (h : e.Preliminary) : ¬e.IsVerdict := by
  cases e with
  | verified => exact h.elim
  | _ => exact id

theorem Preliminary.signatureId? {e : Event} (h : e.Preliminary) : e.signatureId? = none := by
  cases e with
  | drew => exact h.elim
  | _ => rfl

end Event

theorem reported_preliminary {α : Type} {op : StoreOp} {x : Except Failure α} :
    ∀ e ∈ reported op x, e.Preliminary := by
  intro e he
  cases x with
  | ok a => cases he
  | error f =>
    obtain rfl := List.mem_singleton.1 he
    trivial

theorem Store.changes_preliminary {s : Store} {op : StoreOp} :
    ∀ e ∈ s.changes op, e.Preliminary := by
  intro e he
  rcases mem_changes he with ⟨P, rfl⟩ | ⟨b, q, rfl⟩
  · trivial
  · trivial

theorem preliminary_of_answer {r : Effect} (hr : r.Incidental) {s : Store} {clock : Instant}
    {choice : Choice} {a : Answer r} (h : answer s clock past r choice = some a) :
    ∀ e ∈ a.events, e.Preliminary := by
  cases comesTo h with
  | performed => exact List.forall_mem_append.2 ⟨reported_preliminary, Store.changes_preliminary⟩
  | lost => exact List.forall_mem_cons.2 ⟨trivial, Store.changes_preliminary⟩
  | verified | landed | fresh => exact hr.elim
  | note | correlate | pause => exact List.forall_mem_nil _
  | now | refused => exact List.forall_mem_singleton.2 trivial

/-- Only one who asks for a verdict is given one. -/
theorem no_verdict_of_answer {r : Effect} (hr : ¬r.Verifies) {s : Store} {clock : Instant}
    {choice : Choice} {a : Answer r} (h : answer s clock past r choice = some a) :
    ∀ e ∈ a.events, ¬e.IsVerdict := by
  have preliminary : ∀ es : List Event, (∀ e ∈ es, e.Preliminary) → ∀ e ∈ es, ¬e.IsVerdict :=
    fun es hes e he => (hes e he).not_isVerdict
  cases comesTo h with
  | performed =>
    exact preliminary _ (List.forall_mem_append.2 ⟨reported_preliminary, Store.changes_preliminary⟩)
  | lost => exact preliminary _ (List.forall_mem_cons.2 ⟨trivial, Store.changes_preliminary⟩)
  | verified => exact absurd trivial hr
  | note | correlate | pause => exact List.forall_mem_nil _
  | now | refused | fresh | landed => exact List.forall_mem_singleton.2 id

/-- Nothing has been rejected for a call. -/
def Unrejected (past : Chronicle) (i : Nat) : Prop :=
  ∀ signer payload data, ⟨i, .verified signer payload data (.ok false)⟩ ∉ past

theorem Unrejected.within (h : Unrejected past i) (hl : Within c i may past l)
    (hm : ∀ e, may e → ¬e.IsVerdict) : Unrejected l i := by
  intro signer payload data he
  obtain ⟨-, news, rfl, hn⟩ := hl
  rcases List.mem_append.1 he with he | he
  · exact hm _ (hn _ he) trivial
  · exact h signer payload data he

/-- Whoever has had an artifact rejected has not attempted a signature. -/
def Warranted (past : Chronicle) (i : Nat) : Prop := Unrejected past i ∨ attempted past i = []

theorem Warranted.of_suffix (h : Warranted l i) (hs : past <:+ l) : Warranted past i := by
  rcases h with unrejected | unattempted
  · exact .inl fun signer payload data he => unrejected signer payload data (hs.subset he)
  · refine .inr (List.eq_nil_iff_forall_not_mem.2 fun x hx => ?_)
    have drawn := mem_attempted.2 (hs.subset (mem_attempted.1 hx))
    rw [unattempted] at drawn
    cases drawn

/-- Only who has attempted a signature has put one on a record. -/
theorem Lawful.signatures_eq (h : Lawful c past) (unattempted : attempted past i = [])
    (wrote : ⟨i, .wrote (some old) new⟩ ∈ past) : new.signatures = old.signatures := by
  obtain ⟨older, hs, -, -, hc⟩ := h.allowed wrote
  have undrawn : ∀ x, ⟨i, .drew .signature x⟩ ∉ older := by
    intro x drawn
    apply List.not_mem_nil (a := x)
    rw [← unattempted, mem_attempted]
    exact hs.subset (List.mem_cons_of_mem _ drawn)
  cases hc with
  | signed s _ _ _ _ _ _ _ _ drawn => exact absurd drawn (undrawn s.id)
  | _ => rfl

/-- A call that has asked for no verdict yet and has attempted no signature. -/
structure Unbegun (past : Chronicle) (i : Nat) : Prop where
  unrejected : Unrejected past i
  unattempted : attempted past i = []

theorem Unbegun.within (h : Unbegun past i) (hl : Within c i Event.Preliminary past l) :
    Unbegun l i := by
  refine ⟨h.unrejected.within hl fun _ => Event.Preliminary.not_isVerdict, ?_⟩
  obtain ⟨-, news, rfl, hn⟩ := hl
  rw [attempted_append fun e he => (hn e he).signatureId?]
  exact h.unattempted

theorem Unbegun.warranted (h : Unbegun past i) : Warranted past i := .inl h.unrejected

theorem Unrejected.cons {signer : Text} {payload : String} {data : Text} {v : Except Failure Bool}
    (h : Unrejected past i) (accepted : v ≠ .ok false) :
    Unrejected (⟨i, .verified signer payload data v⟩ :: past) i := by
  intro signer' payload' data' he
  rcases List.mem_cons.1 he with he | he
  · cases he
    exact accepted rfl
  · exact h signer' payload' data' he

theorem Policies.get_safe :
    Safe c i Event.Preliminary (fun P l => (replay c.founding l).policy? id = some P) AnyFailure
      (get id correlation) past := by
  rw [← Program.bind_done (get id correlation)]
  refine Safe.policy_bind (fun _ _ => trivial) ?_ fun _ _ _ => trivial
  exact fun l P hl hP => Safe.done fun l' hl' => hl'.policy hP

namespace Ledger

theorem load_safe :
    Safe c i Event.Preliminary (fun p l => p ∈ written l ∧ p.id = id) AnyFailure
      (load id correlation) past := by
  rw [← Program.bind_done (load id correlation)]
  refine Safe.load_bind (fun _ _ => trivial) ?_ fun _ _ _ => trivial
  intro l p hl hp
  exact Safe.done fun l' hl' =>
    ⟨hl'.mem_written (mem_written_of_proposal? hp), Store.id_eq_of_proposal? hp⟩

/-- The payload that is given out is the payload of a committed version. -/
theorem payload_safe :
    Safe c i (fun _ => True) (fun s l => ∃ q ∈ written l, q.id = id ∧ s = q.payload) AnyFailure
      (payload id correlation) past := by
  refine Safe.bind load_safe (fun _ _ => trivial) ?_ fun _ _ _ _ => trivial
  rintro p l hl ⟨known, hid⟩
  exact Safe.done fun l' hl' => ⟨p, hl'.mem_written known, hid, rfl⟩

namespace Signing

variable {g : Signing} {n : Nat}

theorem checkOpen_preliminary (known : p ∈ written past) :
    Safe c i Event.Preliminary
      (fun _ _ => p.status.isTerminal = false ∧ g.signer ∈ g.policy.signers ∧
        p.hasSigned g.signer = false)
      AnyFailure (g.checkOpen p) past := by
  have asked := (checkOpen_safe (c := c) (i := i) (g := g) known).asks checkOpen_asks
    fun r hr s clock l choice a answered => preliminary_of_answer hr answered
  exact asked.mono (fun _ => And.right) (fun _ _ _ h => h) fun _ _ _ h => h

/-- A call that goes on after the check of its artifact has not had it rejected. -/
theorem checkArtifact_warranted (h : Unbegun past i) :
    Safe c i (fun _ => True) (fun _ l => Unrejected l i) (fun _ l => Warranted l i)
      (g.checkArtifact p) past := by
  have keep : ∀ l l', Unrejected l i → Later c i l l' → Unrejected l' i :=
    fun l l' hu hl => hu.within hl fun _ => False.elim
  unfold checkArtifact
  cases g.data with
  | none => exact Safe.done fun l hl => keep past l h.unrejected hl
  | some data =>
    refine Safe.verdict_bind (fun _ => trivial) ?_
    intro v l hl _
    have begun := h.within (Within.of_later hl)
    cases v with
    | error e =>
      have unrejected : Unrejected (⟨i, .verified g.signer p.payload data (.error e)⟩ :: l) i :=
        begun.unrejected.cons (by simp)
      exact Safe.fail fun l' hl' => .inl (keep _ l' unrejected hl')
    | ok verified =>
      cases verified with
      | true =>
        have unrejected : Unrejected (⟨i, .verified g.signer p.payload data (.ok true)⟩ :: l) i :=
          begun.unrejected.cons (by simp)
        exact Safe.done fun l' hl' => keep _ l' unrejected hl'
      | false =>
        have unattempted :
            attempted (⟨i, .verified g.signer p.payload data (.ok false)⟩ :: l) i = [] := by
          rw [attempted_cons fun _ => rfl]
          exact begun.unattempted
        refine Safe.note_bind fun l₁ hl₁ => Safe.reject fun l₂ hl₂ => .inr ?_
        rw [(Within.of_later (hl₁.trans hl₂)).attempted_eq]
        exact unattempted

theorem recordWithin_unrejected (h : Unrejected past i) (started : g.Started c i p past)
    (hopen : p.status.isTerminal = false) (member : g.signer ∈ g.policy.signers)
    (unsigned : p.hasSigned g.signer = false) :
    Safe c i (fun _ => True) (fun _ l => Warranted l i) (fun _ l => Warranted l i)
      (g.recordWithin n p) past := by
  have asked := (recordWithin_safe (n := n) started hopen member unsigned).asks recordWithin_asks
    fun r hr s clock l choice a answered => no_verdict_of_answer hr answered
  refine asked.mono (fun _ _ => trivial) ?_ ?_
  · exact fun _ l hl _ => .inl (h.within hl fun _ => And.right)
  · exact fun _ l hl _ => .inl (h.within hl fun _ => And.right)

end Signing

theorem sign_warranted {n : Nat}
    (call : ⟨i, .began (.sign id request correlation)⟩ ∈ past) (h : Unbegun past i) :
    Safe c i (fun _ => True) (fun _ l => Warranted l i) (fun _ l => Warranted l i)
      (sign n id request correlation) past := by
  unfold sign
  refine Safe.bind load_safe (fun _ _ => trivial) ?_ fun _ l hl _ => (h.within hl).warranted
  rintro p l₁ hl₁ ⟨known, hid⟩
  have h₁ := h.within hl₁
  refine Safe.bind Policies.get_safe (fun _ _ => trivial) ?_
    fun _ l hl _ => (h₁.within hl).warranted
  intro policy l₂ hl₂ hpolicy
  have h₂ := h₁.within hl₂
  have copy : Copy c id policy p l₂ := ⟨hl₂.mem_written known, hid, hpolicy⟩
  refine Safe.bind (Signing.checkOpen_preliminary copy.known) (fun _ _ => trivial) ?_
    fun _ l hl _ => (h₂.within hl).warranted
  rintro _ l₃ hl₃ ⟨hopen, member, unsigned⟩
  refine Safe.bind (Signing.checkArtifact_safe.both (Signing.checkArtifact_warranted (h₂.within hl₃)))
    (fun _ _ => trivial) ?_ fun _ _ _ => And.right
  rintro _ l₄ hl₄ ⟨accepted, unrejected⟩
  have called := hl₄.mem (hl₃.mem (hl₂.mem (hl₁.mem call)))
  exact Signing.recordWithin_unrejected unrejected
    ⟨(copy.within hl₃).within hl₄, ⟨request, correlation, called, rfl, rfl⟩, accepted⟩ hopen member
    unsigned

end Ledger

/-! ## What a call has had to do with a payload -/

def Call.Binds (i : Nat) : (call : Call) → Except Failure call.Result → Chronicle → Prop
  | .payload id _, .ok s, past => ∃ q ∈ written past, q.id = id ∧ s = q.payload
  | .sign .., _, past => Warranted past i
  | _, _, _ => True

theorem Call.keepsBinds (c : Conditions) (i : Nat) (call : Call) :
    KeepsLaw rules c i call (fun a => call.Binds i (.ok a)) (fun e => call.Binds i (.error e)) := by
  intro past hlaw began unused ready
  cases call with
  | sign id request correlation =>
    refine Ledger.sign_warranted began ⟨fun signer payload data he => ?_, ?_⟩
    · cases unused _ he
    · refine attempted_eq_nil fun e he => ?_
      rw [unused e he]
      rfl
  | payload id correlation => exact Ledger.payload_safe
  | _ => exact Call.keepsLaw c i _ past hlaw began unused ready

theorem Reachable.binds {call : Call} {result : Except Failure call.Result}
    (h : Reachable rules c w) (he : w.Ended i call result) : call.Binds i result w.chronicle :=
  (h.sound (Call.keepsBinds c)).ended (E := fun i call => call.Binds i) he

/-- At any time of a call to sign: if an artifact was rejected, no signature was attempted. -/
theorem Reachable.warranted (h : Reachable rules (.any c.founding) w)
    (hc : w.calls[i]? = some (.sign id request correlation)) : Warranted w.chronicle i := by
  obtain ⟨v, result, follows, ended⟩ :=
    World.exists_end (c := .any c.founding) rules (fun _ _ _ => trivial) hc
  have warranted : Warranted v.chronicle i := (h.follows follows).binds ended
  exact warranted.of_suffix follows.chronicle_suffix

/-- A call has gone to the deployer with an order, whether it has come back or not. -/
def World.Ordered (w : World) (i : Nat) (o : Order) : Prop :=
  (∃ limit, w.request? i = some (.deploy o limit)) ∨
    ∃ landing, ⟨i, .deployed o landing⟩ ∈ w.chronicle

/-- The payload of a proposal under a policy that an order is for. -/
def Order.payload (o : Order) (policyId : Text) : String :=
  (Json.object [("contract_id", .text o.contractId), ("network", .text o.network.word),
    ("policy_id", .text policyId), ("wasm_hash", .text o.wasmHash)]).compact

/-- An order names the contract, the code and the network of a proposal. -/
structure Order.Fulfils (o : Order) (p : Proposal) : Prop where
  contractId : o.contractId = p.contractId
  wasmHash : o.wasmHash = p.wasmHash
  network : o.network = p.network

theorem Order.Fulfils.payload_eq (h : o.Fulfils p) : o.payload p.policyId = p.payload := by
  rw [Order.payload, h.contractId, h.wasmHash, h.network]
  rfl

theorem Due.fulfils (h : Due c past i o) (hs : past <:+ l)
    (hl : Lawful c l) (known : p ∈ written l) (hid : o.key = p.id) : o.Fulfils p := by
  cases h with
  | @due q x requested asked correlation call stored =>
    obtain ⟨news, rfl⟩ := hs
    have ordered : q ∈ written (news ++ past) := by
      rw [written_append]
      exact List.mem_append_right _ (mem_written_of_proposal? stored)
    have origin := hl.origin_eq known ordered hid
    obtain ⟨-, -, -, contractId, wasmHash, network, -⟩ := Proposal.origin_eq_iff.1 origin
    exact ⟨contractId, wasmHash, network⟩

theorem Reachable.fulfils (h : Reachable rules (.any c.founding) w) (known : p ∈ written w.chronicle)
    (ordered : w.Ordered i o) (hid : o.key = p.id) : o.Fulfils p := by
  rcases ordered with ⟨limit, asked⟩ | ⟨landing, answered⟩
  · exact (h.due asked).fulfils List.suffix_rfl h.lawful known hid
  · obtain ⟨past, hs, -, due⟩ := h.lawful.allowed answered
    exact Due.fulfils due ((List.suffix_cons _ past).trans hs) h.lawful known hid

/-- What one is given to sign, what is verified, and what goes to the deployer is the payload of the
stored record, at any time. An artifact that is rejected leads to no signature. -/
theorem Reachable.payload_binds (h : Reachable rules c w) (hp : p ∈ w.store.proposals) :
    (∀ i correlation s, w.Returned i (.payload p.id correlation) s → s = p.payload) ∧
    (∀ s ∈ p.signatures, ∀ data, s.data = some data →
      AcceptedBefore w.chronicle p.id s p.payload data) ∧
    (∀ i o, w.Ordered i o → o.key = p.id →
      o.Fulfils p ∧ o.payload p.policyId = p.payload) ∧
    (∀ i request correlation, w.calls[i]? = some (.sign p.id request correlation) →
      ∀ signer payload data, ⟨i, .verified signer payload data (.ok false)⟩ ∈ w.chronicle →
        ∀ old new, ⟨i, .wrote (some old) new⟩ ∈ w.chronicle → new.signatures = old.signatures) := by
  have free := h.lenient
  have known : p ∈ written w.chronicle := by
    rw [h.store_eq] at hp
    exact mem_written_of_mem hp
  refine ⟨?_, h.lawful.acceptedBefore known, ?_, ?_⟩
  · intro i correlation s returned
    obtain ⟨q, hq, hid, rfl⟩ : ∃ q ∈ written w.chronicle, q.id = p.id ∧ s = q.payload :=
      h.binds returned
    exact Proposal.payload_of_origin (h.lawful.origin_eq known hq hid)
  · intro i o ordered hid
    have fulfils := free.fulfils known ordered hid
    exact ⟨fulfils, fulfils.payload_eq⟩
  · intro i request correlation called signer payload data rejected old new wrote
    rcases free.warranted called with unrejected | unattempted
    · exact absurd rejected (unrejected signer payload data)
    · exact h.lawful.signatures_eq unattempted wrote

namespace OneOfTwo

/-- A signature is verified, meets a conflict and is stored. Another one is rejected. Then the
payload is shown, and the proposal goes to the deployer. -/
def boundMoves : List Move :=
  proposed policy ++
  [.start (.sign (letter 'Q') ⟨letter 'a', some (letter 'd')⟩ (letter 'r'))] ++
  serve 2 [.plain, .plain, .plain, .verdict (.ok true), .plain, .id (letter 'S'),
    .refused (.conflict (letter 'Q') 1 .nothing), .plain, .plain, .plain, .plain,
    .id (letter 'T'), .plain, .plain] ++
  [.start (.sign (letter 'Q') ⟨letter 'b', some (letter 'd')⟩ (letter 'r'))] ++
  serve 3 [.plain, .plain, .plain, .verdict (.ok false), .plain] ++
  [.start (.payload (letter 'Q') (letter 'r'))] ++
  serve 4 [.plain] ++
  [.start (.execute (letter 'Q') none (letter 'r'))] ++
  serve 5 [.id (letter 'E'), .plain, .plain, .plain, .plain, .plain, .plain]

def bound : World :=
  ((World.opening [] start).play OneOfTwo.rules lossy boundMoves).get (by decide +kernel)

theorem play_bound : (World.opening [] start).play OneOfTwo.rules lossy boundMoves = some bound :=
  (Option.some_get _).symm

theorem one_payload : ∃ p ∈ bound.store.proposals,
    (∃ s ∈ p.signatures, AcceptedBefore bound.chronicle p.id s p.payload (letter 'd')) ∧
    bound.Returned 4 (.payload (letter 'Q') (letter 'r')) p.payload ∧
    ∃ o, bound.Ordered 5 o ∧ o.payload p.policyId = p.payload := by
  have hw : Reachable OneOfTwo.rules .lossy bound := reachable_lossy play_bound
  have calls : bound.calls[4]? = some (.payload (letter 'Q') (letter 'r')) := by
    rw [World.calls_play play_bound]
    rfl
  have stored : bound.store.proposals.any (fun p => p.id == letter 'Q' &&
      p.signatures.any (·.data == some (letter 'd'))) = true := by decide +kernel
  obtain ⟨p, hp, known⟩ := List.any_eq_true.1 stored
  simp only [Bool.and_eq_true, beq_iff_eq, List.any_eq_true] at known
  obtain ⟨hid, s, hs, data⟩ := known
  obtain ⟨shown, verified, ordered, -⟩ := Reachable.payload_binds hw hp
  obtain ⟨text, returned⟩ := World.returned_of_hasReturned calls (by decide +kernel)
  obtain ⟨o, limit, asked, key⟩ := World.isDeploying_eq_true
    (show bound.isDeploying (letter 'Q') 5 = true by decide +kernel)
  have same := shown 4 (letter 'r') text (by rw [hid]; exact returned)
  refine ⟨p, hp, ⟨s, hs, verified s hs _ data⟩, same ▸ returned, o, .inl ⟨limit, asked⟩, ?_⟩
  exact (ordered 5 o (.inl ⟨limit, asked⟩) (key.trans hid.symm)).2

end OneOfTwo

end QuorumGate
