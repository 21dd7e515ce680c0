import QuorumGate.Proofs.Concurrency.Deployment
import QuorumGate.Proofs.Concurrency.Insertion
import QuorumGate.Proofs.Concurrency.Quiet
import QuorumGate.Proofs.Concurrency.Requests

/-!
# Creating once

A call that creates a policy or a proposal makes one change in the store at most: it puts there the
record it was asked for, and answers with what has become of that record. This holds whatever the
store reports about the insertion, as long as it reports conflicts only.
-/

namespace QuorumGate

variable {c : Conditions} {rules : ExecutionRules} {w v : World} {past after : Chronicle} {i : Nat}
  {α : Type} {ok : α → Chronicle → Prop} {bad : Failure → Chronicle → Prop} {P : Policy}
  {p q : Proposal} {correlation : Text}

/-- A call that is refused has changed nothing. -/
def Untouched (i : Nat) (f : Failure) (past : Chronicle) : Prop :=
  ∀ r, f = .rejected r → changesBy past i = []

theorem Filing.later (h : Filing past i P) (hs : past <:+ after) : Filing after i P := by
  obtain ⟨call, sound, drawn, seen⟩ := h
  exact .filed (hs.subset call) sound (hs.subset drawn) (hs.subset seen)

theorem Creation.later (h : Creation c past i p) (hs : past <:+ after) : Creation c after i p := by
  obtain ⟨call, policy_eq, sound, seen, window, drawn⟩ := h
  obtain ⟨news, rfl⟩ := hs
  exact .created (List.mem_append_right _ call) (policy?_mono policy_eq) sound
    (List.mem_append_right _ seen) window (List.mem_append_right _ drawn)

/-! ## Policies -/

/-- A call has put one policy into the store, as it was asked to. -/
structure PolicyCreated (c : Conditions) (i : Nat) (draft : PolicyDraft) (P : Policy)
    (past : Chronicle) : Prop where
  drawn : ⟨i, .drew .policy P.id⟩ ∈ past
  asked : ∃ t, ⟨i, .saw t⟩ ∈ past ∧ P = draft.stripped.toPolicy P.id t
  added : changesBy past i = [.filed P]
  stored : (replay c.founding past).policy? P.id = some P

theorem PolicyCreated.later {draft : PolicyDraft} (h : PolicyCreated c i draft P past)
    (hl : Later c i past after) : PolicyCreated c i draft P after where
  drawn := hl.mem h.drawn
  asked := by
    obtain ⟨t, seen, hP⟩ := h.asked
    exact ⟨t, hl.mem seen, hP⟩
  added := (Later.changesBy_eq hl).trans h.added
  stored := hl.policy h.stored

namespace Policies

theorem recoverInsert_found (hc : c.Dependable)
    (stored : (replay c.founding past).policy? P.id = some P) :
    Safe c i (fun _ => False) (fun Q l => Q = P ∧ (replay c.founding l).policy? P.id = some P)
      (fun _ _ => False) (recoverInsert P correlation) past := by
  unfold recoverInsert
  refine Safe.get_policy_bind hc fun l hl => ?_
  rw [hl.policy stored]
  simp only [Policy.same_self, ↓reduceIte]
  exact Safe.note_bind fun l' hl' => Safe.done fun l'' hl'' =>
    ⟨rfl, hl''.policy (hl'.policy (hl.policy stored))⟩

theorem recoverInsert_absent (hc : c.Dependable)
    (absent : ∀ l, Later c i past l → (replay c.founding l).policy? P.id = none) :
    Safe c i (fun _ => False) (fun _ _ => False) (fun f _ => f = .rejected (.policyIdTaken P.id))
      (recoverInsert P correlation) past := by
  unfold recoverInsert
  refine Safe.get_policy_bind hc fun l hl => ?_
  rw [absent l hl]
  exact Safe.reject fun _ _ => rfl

/-- To file a policy that the call has drawn the identifier of, and has not filed yet. -/
theorem insert_once (hc : c.Clashing) {k : Policy → Service α} {k' : Option Policy → Service α}
    (some_eq : ∀ Q, k' (some Q) = k Q) (none_eq : k' none = recoverInsert P correlation >>= k)
    (filing : Filing past i P) (drawn : ⟨i, .drew .policy P.id⟩ ∈ past)
    (clean : changesBy past i = [])
    (hk : ∀ l, past <:+ l → changesBy l i = [.filed P] →
      (replay c.founding l).policy? P.id = some P → Safe c i (fun _ => True) ok bad (k P) l)
    (hbad : ∀ l, changesBy l i = [] → bad (.rejected (.policyIdTaken P.id)) l) :
    Safe c i (fun _ => True) ok bad
      (Service.storeUnlessConflict (.insertPolicy P) correlation >>= k') past := by
  have absent : ∀ l, past <:+ l → Lawful c l → changesBy l i = [] →
      (replay c.founding l).policy? P.id = none := fun l hs law own =>
    law.policy?_drawn hc.founding (hs.subset drawn) own
  have absent_later : ∀ l, Later c i past l → (replay c.founding l).policy? P.id = none :=
    fun l hl => absent l hl.suffix hl.lawful ((Later.changesBy_eq hl).trans clean)
  refine Safe.insert_once hc (r := P) (e := .filed P)
    (fun Q l => Q = P ∧ (replay c.founding l).policy? P.id = some P)
    some_eq none_eq rfl clean ?_ ?_ ?_ ?_ ?_ hbad
  case _ =>
    intro l hl
    obtain ⟨performed, changes⟩ := Store.insertPolicy_made (absent_later l hl)
    exact ⟨performed, changes, filing.later hl.suffix⟩
  case _ => exact fun l hl _ => ⟨rfl, Store.policy?_filed (absent_later l hl)⟩
  case _ =>
    rintro l l' hl law ⟨news, rfl⟩
    exact recoverInsert_found hc.toDependable
      (policy?_mono (Store.policy?_filed (absent_later l hl)))
  case _ =>
    intro l hs law own
    exact recoverInsert_absent hc.toDependable fun l' hl' =>
      absent l' (hs.trans hl'.suffix) hl'.lawful ((Later.changesBy_eq hl').trans own)
  case _ =>
    rintro Q l hs - own ⟨same, stored⟩
    rw [same]
    exact hk l hs own stored

/-- A call is about to file a policy: its draft is sound, and the identifier is its own. -/
structure AboutToFile (i : Nat) (draft : PolicyDraft) (P : Policy) (past : Chronicle) : Prop where
  sound : draft.stripped.objection? = none
  filing : Filing past i P
  drawn : ⟨i, .drew .policy P.id⟩ ∈ past
  asked : ∃ t, ⟨i, .saw t⟩ ∈ past ∧ P = draft.stripped.toPolicy P.id t
  clean : changesBy past i = []

/-- A draft is refused, or there comes a request to file a policy. What follows the request says
what is stored, and looks for it first if the request has met with a conflict. -/
theorem create_bind {draft : PolicyDraft} {ok : Policy → Chronicle → Prop}
    (call : ⟨i, .began (.createPolicy draft correlation)⟩ ∈ past) (clean : changesBy past i = [])
    (refused : ∀ r l, draft.stripped.objection? = some r → Later c i past l →
      bad (.rejected r) l)
    (files : ∀ P l (k : Option Policy → Service Policy), AboutToFile i draft P l →
      (∀ Q, ∃ text, k (some Q) = (Service.note .info .policies text >>= fun _ => .done Q)) →
      k none = (recoverInsert P correlation >>= fun Q => k (some Q)) →
      Safe c i (fun _ => True) ok bad
        (Service.storeUnlessConflict (.insertPolicy P) correlation >>= k) l) :
    Safe c i (fun _ => True) ok bad (create draft correlation) past := by
  unfold create
  refine Safe.ofExcept_bind ?_ fun r l broken hl =>
    refused r l (PolicyDraft.objection?_of_check_eq_error broken) hl
  intro _ hcheck
  have sound := PolicyDraft.objection?_of_check hcheck
  refine Safe.draw_bind (fun _ => trivial) ?_
  intro pid l₁ hl₁ law₁
  refine Safe.saw_bind (fun _ => trivial) ?_
  intro t l₂ hl₂ law₂
  have drawn : ⟨i, .drew .policy pid⟩ ∈ ⟨i, .saw t⟩ :: l₂ :=
    List.mem_cons_of_mem _ (hl₂.mem List.mem_cons_self)
  have seen : ⟨i, .saw t⟩ ∈ (⟨i, .saw t⟩ :: l₂ : Chronicle) := List.mem_cons_self
  have filing : Filing (⟨i, .saw t⟩ :: l₂) i (draft.stripped.toPolicy pid t) :=
    .filed (List.mem_cons_of_mem _ (hl₂.mem (List.mem_cons_of_mem _ (hl₁.mem call)))) sound drawn
      seen
  have clean₂ : changesBy (⟨i, .saw t⟩ :: l₂) i = [] := by
    rw [changesBy_other rfl, Later.changesBy_eq hl₂, changesBy_other rfl, Later.changesBy_eq hl₁,
      clean]
  exact files _ _ _ ⟨sound, filing, drawn, ⟨t, seen, rfl⟩, clean₂⟩ (fun Q => ⟨_, rfl⟩) rfl

theorem create_result (hc : c.Clashing) {draft : PolicyDraft}
    (call : ⟨i, .began (.createPolicy draft correlation)⟩ ∈ past) (clean : changesBy past i = []) :
    Safe c i (fun _ => True) (PolicyCreated c i draft) (Untouched i) (create draft correlation)
      past := by
  refine create_bind call clean (fun _ l _ hl r _ => (Later.changesBy_eq hl).trans clean) ?_
  intro P l₁ k ready notes looks
  refine insert_once hc (fun _ => rfl) looks ready.filing ready.drawn ready.clean ?_
    fun l own r _ => own
  intro l hs own stored
  obtain ⟨t, seen, asked⟩ := ready.asked
  have created : PolicyCreated c i draft P l :=
    ⟨hs.subset ready.drawn, ⟨t, hs.subset seen, asked⟩, own, stored⟩
  obtain ⟨text, said⟩ := notes P
  rw [said]
  exact Safe.note_bind fun l' hl' => Safe.done fun l'' hl'' => (created.later hl').later hl''

end Policies

/-! ## Proposals -/

theorem Proposal.sameCreation_of_origin (h : q.origin = p.origin) : q.sameCreation p = true := by
  obtain ⟨id, policyId, contractName, contractId, wasmHash, network, proposer, description,
    createdAt, expiresAt⟩ := origin_eq_iff.1 h
  simp [sameCreation, id, policyId, contractName, contractId, wasmHash, network, proposer,
    description, createdAt, expiresAt]

/-- What a call has inserted was later stored as `q`. -/
def Became (c : Conditions) (i : Nat) (p q : Proposal) (past : Chronicle) : Prop :=
  q.origin = p.origin ∧
    ∃ moment, moment <:+ past ∧ ⟨i, .wrote none p⟩ ∈ moment ∧ Stored c moment p.id q

theorem Became.later (h : Became c i p q past) (hs : past <:+ after) : Became c i p q after := by
  obtain ⟨same, moment, hm, wrote, stored⟩ := h
  exact ⟨same, moment, hm.trans hs, wrote, stored⟩

/-- A call has put one proposal into the store, as it was asked to, and has seen what became of
it. -/
structure ProposalCreated (c : Conditions) (i : Nat) (draft : ProposalDraft) (q : Proposal)
    (past : Chronicle) : Prop where
  drawn : ⟨i, .drew .proposal q.id⟩ ∈ past
  asked : ∃ P t expiresAt, (replay c.founding past).policy? draft.policyId = some P ∧
    ⟨i, .saw t⟩ ∈ past ∧ P.expiryAt t = .ok expiresAt ∧
      q.origin = draft.normalized.toProposal q.id t expiresAt
  added : changesBy past i = [.wrote none q.origin]
  became : Became c i q.origin q past

theorem ProposalCreated.later {draft : ProposalDraft} (h : ProposalCreated c i draft q past)
    (hl : Later c i past after) : ProposalCreated c i draft q after where
  drawn := hl.mem h.drawn
  asked := by
    obtain ⟨P, t, expiresAt, policy_eq, seen, window, hq⟩ := h.asked
    exact ⟨P, t, expiresAt, hl.policy policy_eq, hl.mem seen, window, hq⟩
  added := (Later.changesBy_eq hl).trans h.added
  became := h.became.later hl.suffix

namespace Ledger

theorem recoverInsert_found (hc : c.Dependable) (wrote : ⟨i, .wrote none p⟩ ∈ past) :
    Safe c i (fun _ => False) (fun q l => Became c i p q l) (fun _ _ => False)
      (recoverInsert p correlation) past := by
  unfold recoverInsert
  refine Safe.get_bind hc fun l hl => ?_
  obtain ⟨q, stored, descends⟩ := hl.lawful.stored (mem_written.2 ⟨i, none, hl.mem wrote⟩) rfl
  have found : (replay c.founding l).proposal? p.id = some q := stored
  rw [found]
  simp only [Proposal.sameCreation_of_origin descends.origin, ↓reduceIte]
  exact Safe.note_bind fun l' hl' => Safe.done fun l'' hl'' =>
    ⟨descends.origin, l, hl'.suffix.trans hl''.suffix, hl.mem wrote, stored⟩

theorem recoverInsert_absent (hc : c.Dependable)
    (absent : ∀ l, Later c i past l → (replay c.founding l).proposal? p.id = none) :
    Safe c i (fun _ => False) (fun _ _ => False) (fun f _ => f = .rejected (.proposalIdTaken p.id))
      (recoverInsert p correlation) past := by
  unfold recoverInsert
  refine Safe.get_bind hc fun l hl => ?_
  rw [absent l hl]
  exact Safe.reject fun _ _ => rfl

/-- To insert a proposal that the call has drawn the identifier of, and has not inserted yet. -/
theorem insert_once (hc : c.Clashing) {k : Proposal → Service α} {k' : Option Proposal → Service α}
    (some_eq : ∀ q, k' (some q) = k q) (none_eq : k' none = recoverInsert p correlation >>= k)
    (creation : Creation c past i p) (drawn : ⟨i, .drew .proposal p.id⟩ ∈ past)
    (clean : changesBy past i = [])
    (hk : ∀ q l, past <:+ l → Lawful c l → changesBy l i = [.wrote none p] → Became c i p q l →
      Safe c i (fun _ => True) ok bad (k q) l)
    (hbad : ∀ l, changesBy l i = [] → bad (.rejected (.proposalIdTaken p.id)) l) :
    Safe c i (fun _ => True) ok bad
      (Service.storeUnlessConflict (.insertProposal p) correlation >>= k') past := by
  have absent : ∀ l, past <:+ l → Lawful c l → changesBy l i = [] →
      (replay c.founding l).proposal? p.id = none := fun l hs law own =>
    law.proposal?_drawn (hs.subset drawn) own
  have absent_later : ∀ l, Later c i past l → (replay c.founding l).proposal? p.id = none :=
    fun l hl => absent l hl.suffix hl.lawful ((Later.changesBy_eq hl).trans clean)
  refine Safe.insert_once hc (r := p) (e := .wrote none p) (Became c i p) some_eq none_eq rfl clean
    ?_ ?_ ?_ ?_ hk hbad
  case _ =>
    intro l hl
    obtain ⟨performed, changes⟩ := Store.insertProposal_made (absent_later l hl)
    exact ⟨performed, changes, absent_later l hl, creation.later hl.suffix⟩
  case _ =>
    intro l hl law
    have stored : Stored c (⟨i, .wrote none p⟩ :: l) p.id p :=
      (law.proposal?_wrote p.id).trans (if_pos rfl)
    exact ⟨rfl, _, List.suffix_rfl, List.mem_cons_self, stored⟩
  case _ =>
    intro l l' hl law hs
    exact recoverInsert_found hc.toDependable (hs.subset List.mem_cons_self)
  case _ =>
    intro l hs law own
    exact recoverInsert_absent hc.toDependable fun l' hl' =>
      absent l' (hs.trans hl'.suffix) hl'.lawful ((Later.changesBy_eq hl').trans own)

theorem create_result (hc : c.Clashing) {draft : ProposalDraft}
    (call : ⟨i, .began (.createProposal draft correlation)⟩ ∈ past)
    (clean : changesBy past i = []) :
    Safe c i (fun _ => True) (ProposalCreated c i draft) (Untouched i) (create draft correlation)
      past := by
  unfold create
  rw [Policies.get, Program.bind_assoc]
  refine Safe.get_policy_bind hc.toDependable fun l₁ hl₁ => ?_
  have clean₁ : changesBy l₁ i = [] := (Later.changesBy_eq hl₁).trans clean
  cases policy_eq : (replay c.founding l₁).policy? draft.policyId with
  | none => exact Safe.reject_bind fun l hl r _ => (Later.changesBy_eq hl).trans clean₁
  | some P =>
    have same : { draft.normalized with policyId := P.id } = draft.normalized := by
      rw [Store.id_eq_of_policy? policy_eq]
      rfl
    refine Safe.ofExcept_bind ?_ fun _ l _ hl r _ => (Later.changesBy_eq hl).trans clean₁
    intro _ hcheck
    refine Safe.saw_bind (fun _ => trivial) ?_
    intro t l₂ hl₂ law₂
    have clean₂ : changesBy (⟨i, .saw t⟩ :: l₂) i = [] := by
      rw [changesBy_other rfl, Later.changesBy_eq hl₂, clean₁]
    refine Safe.ofExcept_bind ?_ fun _ l _ hl r _ => (Later.changesBy_eq hl).trans clean₂
    intro expiresAt window
    refine Safe.draw_bind (fun _ => trivial) ?_
    intro pid l₃ hl₃ law₃
    rw [same] at hcheck ⊢
    have base : ∀ e ∈ l₁, e ∈ (⟨i, .drew .proposal pid⟩ :: l₃ : Chronicle) := fun e he =>
      List.mem_cons_of_mem _ (hl₃.mem (List.mem_cons_of_mem _ (hl₂.mem he)))
    have seen : ⟨i, .saw t⟩ ∈ (⟨i, .drew .proposal pid⟩ :: l₃ : Chronicle) :=
      List.mem_cons_of_mem _ (hl₃.mem List.mem_cons_self)
    have policy_eq₃ : (replay c.founding l₃).policy? draft.policyId = some P :=
      hl₃.policy (hl₂.policy policy_eq)
    have clean₃ : changesBy (⟨i, .drew .proposal pid⟩ :: l₃) i = [] := by
      rw [changesBy_other rfl, Later.changesBy_eq hl₃, clean₂]
    have creation : Creation c (⟨i, .drew .proposal pid⟩ :: l₃) i
        (draft.normalized.toProposal pid t expiresAt) := by
      have made := Creation.created (base _ (hl₁.mem call)) policy_eq₃
        (ProposalDraft.objection?_of_check (same ▸ hcheck)) seen window List.mem_cons_self
      rwa [same] at made
    refine insert_once hc (fun _ => rfl) rfl creation List.mem_cons_self clean₃ ?_
      fun l own r _ => own
    intro q l hs law own became
    obtain ⟨news, rfl⟩ := hs
    have hid : q.id = pid := (Proposal.origin_eq_iff.1 became.1).1
    have origin : q.origin = draft.normalized.toProposal pid t expiresAt := became.1
    have created : ProposalCreated c i draft q (news ++ ⟨i, .drew .proposal pid⟩ :: l₃) :=
      { drawn := hid ▸ List.mem_append_right news List.mem_cons_self
        asked := ⟨P, t, expiresAt, policy?_mono policy_eq₃, List.mem_append_right news seen, window,
          hid ▸ origin⟩
        added := by rw [origin, own]
        became := by rwa [origin] }
    exact Safe.note_bind fun l' hl' => Safe.done fun l'' hl'' => (created.later hl').later hl''

end Ledger

/-! ## No record is altered -/

namespace Effect

/-- Whether a record is put in the place of another one. -/
def Updates : Effect → Prop
  | store (.updateProposal ..) _ => True
  | _ => False

end Effect

theorem Policies.create_asks {draft : PolicyDraft} :
    Asks (fun r => ¬r.Updates) (fun _ => True) (Policies.create draft correlation) := by
  unfold Policies.create
  refine Asks.ofExcept_bind fun _ _ => Asks.fresh_bind id fun pid => Asks.now_bind id fun t =>
    Asks.write_bind id fun r => ?_
  cases r with
  | some Q => exact Asks.note_bind id True.intro
  | none =>
    have recovered : Asks (fun r => ¬r.Updates) (fun _ => True)
        (recoverInsert (draft.stripped.toPolicy pid t) correlation) := by
      refine Asks.store_bind id fun found => ?_
      cases found with
      | none => exact Asks.reject
      | some Q =>
        show Asks _ _ (if _ then _ else _)
        split
        · exact Asks.note_bind id True.intro
        · exact Asks.reject
    exact recovered.bind fun Q _ => Asks.note_bind id True.intro

theorem Ledger.create_asks {draft : ProposalDraft} :
    Asks (fun r => ¬r.Updates) (fun _ => True) (Ledger.create draft correlation) := by
  unfold Ledger.create
  rw [Policies.get, Program.bind_assoc]
  refine Asks.store_bind id fun found => ?_
  cases found with
  | none => exact Asks.reject_bind
  | some P =>
    refine Asks.ofExcept_bind fun _ _ => Asks.now_bind id fun t => Asks.ofExcept_bind
      fun expiresAt _ => Asks.fresh_bind id fun pid => Asks.write_bind id fun r => ?_
    cases r with
    | some q => exact Asks.note_bind id True.intro
    | none =>
      have recovered : ∀ p, Asks (fun r => ¬r.Updates) (fun _ => True)
          (recoverInsert p correlation) := by
        intro p
        refine Asks.store_bind id fun found => ?_
        cases found with
        | none => exact Asks.reject
        | some q =>
          show Asks _ _ (if _ then _ else _)
          split
          · exact Asks.note_bind id True.intro
          · exact Asks.reject
      exact (recovered _).bind fun q _ => Asks.note_bind id True.intro

/-- What is left of a call asks for no more than its program. -/
theorem Reachable.asks {allowed : Call → Effect → Prop} (h : Reachable rules c w)
    (programs : ∀ call : Call, Asks (allowed call) (fun _ => True) (call.program rules))
    {call : Call} {rest : Service call.Result} (task : w.tasks[i]? = some ⟨call, rest⟩) :
    Asks (allowed call) (fun _ => True) rest := by
  induction h generalizing rest with
  | opening clock => cases task
  | move m before permitted moved ih =>
    cases World.remains moved task with
    | before task => exact ih task
    | begun => exact programs call
    | @answered r next choice a asking => exact (ih asking).2 a.reply

/-- Whether a call is one to create a record. -/
def Call.Creates : Call → Prop
  | createPolicy .. | createProposal .. => True
  | _ => False

theorem Call.creates_asks (rules : ExecutionRules) (call : Call) :
    Asks (fun r => call.Creates → ¬r.Updates) (fun _ => True) (call.program rules) := by
  cases call with
  | createPolicy draft correlation =>
    exact Policies.create_asks.mono (fun _ h _ => h) fun _ h => h
  | createProposal draft correlation =>
    exact Ledger.create_asks.mono (fun _ h _ => h) fun _ h => h
  | _ => exact Asks.of_forall fun _ => False.elim

/-- The records of one store are those of another one, with some more behind them. -/
structure Store.Extends (t s : Store) : Prop where
  policies : s.policies <+: t.policies
  proposals : s.proposals <+: t.proposals

namespace Store.Extends

theorem refl (s : Store) : s.Extends s := ⟨List.prefix_rfl, List.prefix_rfl⟩

theorem of_perform (s : Store) {op : StoreOp} (h : ¬(Effect.store op correlation).Updates) :
    (s.perform op).2.Extends s := by
  cases op with
  | insertPolicy P =>
    rw [perform_eq_changes]
    rcases changes_cases s (.insertPolicy P) with none | ⟨e, one⟩
    · rw [none]
      exact refl s
    · obtain rfl := changes_insertPolicy P (one ▸ List.mem_singleton_self e)
      rw [one]
      exact ⟨List.prefix_append _ _, List.prefix_rfl⟩
  | insertProposal p =>
    rw [perform_eq_changes]
    rcases changes_cases s (.insertProposal p) with none | ⟨e, one⟩
    · rw [none]
      exact refl s
    · obtain ⟨-, rfl⟩ := changes_insertProposal p (one ▸ List.mem_singleton_self e)
      rw [one]
      exact ⟨List.prefix_rfl, List.prefix_append _ _⟩
  | updateProposal p expected => exact absurd True.intro h
  | _ => exact refl s

/-- Without updates, a request leaves all records that were there. -/
theorem of_answer {s : Store} {clock : Instant} {r : Effect} {choice : Choice} {a : Answer r}
    (h : answer s clock past r choice = some a) (hr : ¬r.Updates) : a.store.Extends s := by
  cases comesTo h with
  | performed => exact of_perform s hr
  | lost => exact of_perform s hr
  | _ => exact refl s

end Store.Extends

/-- No move of a call that creates a record alters another one. -/
theorem Reachable.extends_of_creates (h : Reachable rules c w) {call : Call}
    (called : w.calls[i]? = some call) (creates : call.Creates) {choice : Choice}
    (moved : w.move rules (.serve i choice) = some v) : v.store.Extends w.store := by
  obtain ⟨rest, task⟩ := World.task_of_calls called
  cases World.moved moved with
  | served asking answered =>
    rw [task] at asking
    cases asking
    have asks := h.asks (Call.creates_asks rules) task
    exact .of_answer answered (asks.1 creates)

/-! ## What a call that creates a record has come to -/

/-- What is known of a call that creates a record when it ends. -/
def Call.Makes (c : Conditions) (i : Nat) :
    (call : Call) → Except Failure call.Result → Chronicle → Prop
  | .createPolicy draft _, .ok P, past => PolicyCreated c i draft P past
  | .createProposal draft _, .ok q, past => ProposalCreated c i draft q past
  | .createPolicy .., .error f, past | .createProposal .., .error f, past => Untouched i f past
  | _, _, _ => True

theorem Call.keepsMaking (hc : c.Clashing) (i : Nat) (call : Call) :
    KeepsLaw rules c i call (fun a => call.Makes c i (.ok a))
      (fun f => call.Makes c i (.error f)) := by
  intro past law began unused ready
  cases call with
  | createPolicy draft correlation =>
    exact Policies.create_result hc began (changesBy_eq_nil unused)
  | createProposal draft correlation =>
    exact Ledger.create_result hc began (changesBy_eq_nil unused)
  | _ => exact Call.keepsLaw c i _ past law began unused ready

theorem Reachable.made (hc : c.Clashing) (h : Reachable rules c w) {call : Call}
    {result : Except Failure call.Result} (ended : w.Ended i call result) :
    call.Makes c i result w.chronicle :=
  (h.sound (Call.keepsMaking hc)).ended (E := fun i call => call.Makes c i) ended

/-- Over a store that may report a conflict of any insertion, made or not, a call that creates a
record and returns has put that one record into the store and shows it, as it was asked for; a call
that is refused has put none there; and neither alters any other record. -/
theorem Reachable.created_once (hc : c.Clashing) (h : Reachable rules c w) :
    (∀ draft correlation P, w.Returned i (.createPolicy draft correlation) P →
      PolicyCreated c i draft P w.chronicle ∧ w.store.policy? P.id = some P) ∧
    (∀ draft correlation q, w.Returned i (.createProposal draft correlation) q →
      ProposalCreated c i draft q w.chronicle ∧
        ∃ r, w.store.proposal? q.id = some r ∧ Descends q r) ∧
    (∀ call r, call.Creates → w.Raised i call (.rejected r) → changesBy w.chronicle i = []) ∧
    (∀ call choice v, w.calls[i]? = some call → call.Creates →
      w.move rules (.serve i choice) = some v → v.store.Extends w.store) := by
  refine ⟨?_, ?_, ?_, ?_⟩
  · intro draft correlation P returned
    have created : PolicyCreated c i draft P w.chronicle := h.made hc returned
    exact ⟨created, h.store_eq ▸ created.stored⟩
  · intro draft correlation q returned
    have created : ProposalCreated c i draft q w.chronicle := h.made hc returned
    obtain ⟨-, moment, hs, -, stored⟩ := created.became
    obtain ⟨news, grown⟩ := hs
    have known : q ∈ written w.chronicle := by
      rw [← grown, written_append]
      exact List.mem_append_right _ (mem_written_of_proposal? stored)
    rw [h.store_eq]
    exact ⟨created, h.lawful.descends known⟩
  · intro call r creates raised
    cases call with
    | createPolicy draft correlation =>
      have untouched : Untouched i (.rejected r) w.chronicle := h.made hc raised
      exact untouched r rfl
    | createProposal draft correlation =>
      have untouched : Untouched i (.rejected r) w.chronicle := h.made hc raised
      exact untouched r rfl
    | _ => cases creates
  · exact fun call choice v called creates moved => h.extends_of_creates called creates moved

namespace OneOfTwo

/-- Every write may report a conflict. -/
def clashing : World → Move → Bool :=
  World.allows (fun r choice => choice.isDependable r && choice.isClash) fun _ _ => true

def clash (c : Char) : Failure := .conflict (letter c) 0 .nothing

/-- The responses to two insertions are lost, a rival signs before the second is looked for, and a
third insertion is not made. -/
def lostResponses : List Move :=
  [.start (.createPolicy policy (letter 'r'))] ++
  serve 0 [.id (letter 'P'), .plain, .lost (clash 'P'), .plain, .plain, .plain] ++
  [.start (.createProposal draft (letter 'r'))] ++
  serve 1 [.plain, .plain, .id (letter 'Q'), .lost (clash 'Q')] ++
  [.start (.sign (letter 'Q') ⟨letter 'a', none⟩ (letter 'r'))] ++
  serve 2 [.plain, .plain, .plain, .plain, .id (letter 'S'), .plain, .plain] ++
  serve 1 [.plain, .plain, .plain] ++
  [.start (.createProposal draft (letter 'r'))] ++
  serve 3 [.plain, .plain, .id (letter 'R'), .refused (clash 'R'), .plain]

def created : World :=
  ((World.opening [] start).play OneOfTwo.rules clashing lostResponses).get (by decide +kernel)

theorem play_created : (World.opening [] start).play OneOfTwo.rules clashing lostResponses =
    some created := (Option.some_get _).symm

theorem each_created_once : ∃ P q,
    created.Returned 0 (.createPolicy policy (letter 'r')) P ∧
      changesBy created.chronicle 0 = [.filed P] ∧
    created.Returned 1 (.createProposal draft (letter 'r')) q ∧
      changesBy created.chronicle 1 = [.wrote none q.origin] ∧
    created.Raised 3 (.createProposal draft (letter 'r'))
        (.rejected (.proposalIdTaken (letter 'R'))) ∧
      changesBy created.chronicle 3 = [] := by
  have reached : Reachable OneOfTwo.rules .clashing created :=
    Reachable.follows (.opening start) (Follows.of_play (Conditions.permits_of_allows
      (fun _ _ h => (Bool.and_eq_true _ _).mp h) fun _ _ _ => trivial) .refl play_created)
  have calls := World.calls_play play_created
  obtain ⟨P, hP⟩ := World.returned_of_hasReturned
    (show created.calls[0]? = some (.createPolicy policy (letter 'r')) by rw [calls]; rfl)
    (by decide +kernel)
  obtain ⟨q, hq⟩ := World.returned_of_hasReturned
    (show created.calls[1]? = some (.createProposal draft (letter 'r')) by rw [calls]; rfl)
    (by decide +kernel)
  have raised := World.raised_of_failure?
    (show created.calls[3]? = some (.createProposal draft (letter 'r')) by rw [calls]; rfl)
    (show created.failure? 3 = some (.rejected (.proposalIdTaken (letter 'R'))) by decide +kernel)
  have clashing := Conditions.clashing_clashing
  exact ⟨P, q, hP, ((reached.created_once clashing).1 _ _ P hP).1.added, hq,
    ((reached.created_once clashing).2.1 _ _ q hq).1.added, raised,
    (reached.created_once clashing).2.2.1 (.createProposal draft (letter 'r')) _ trivial raised⟩

end OneOfTwo

end QuorumGate
