import QuorumGate.Proofs.Concurrency.Accounting
import QuorumGate.Proofs.Concurrency.Creating

/-!
# The book of policies

Over a store without faults a policy is made on the terms of its draft, the blanks around the names
removed, or the draft breaks a rule and nothing is stored. What is in the book stays there as it is,
whatever is called afterwards and however the store behaves from then on. So all policies in a store
are such as the rules ask for, and every proposal stands under one of them.
-/

namespace QuorumGate

variable {c : Conditions} {rules : ExecutionRules} {w v : World} {past : Chronicle} {i : Nat}
  {α : Type} {ok : α → Chronicle → Prop} {bad : Failure → Chronicle → Prop} {P : Policy}
  {p : Proposal} {correlation id : Text}

/-! ## Terms -/

/-- What a policy tells of the draft that it was made from. -/
def Policy.terms (P : Policy) : PolicyDraft :=
  ⟨P.name, P.signers, P.threshold, P.expirySeconds, P.createdBy⟩

@[simp] theorem PolicyDraft.terms_toPolicy (d : PolicyDraft) (id : Text) (now : Instant) :
    (d.toPolicy id now).terms = d := rfl

/-- A policy as the rules ask for it, with no blanks around its names. -/
structure Policy.IsWellFormed (P : Policy) : Prop where
  acceptable : P.terms.IsAcceptable
  stripped : P.terms.stripped = P.terms

theorem PolicyDraft.isWellFormed_toPolicy {draft : PolicyDraft}
    (h : draft.stripped.objection? = none) (id : Text) (now : Instant) :
    (draft.stripped.toPolicy id now).IsWellFormed :=
  ⟨objection?_eq_none_iff.1 h, stripped_stripped draft⟩

/-! ## Acceptance -/

theorem Choice.isClash_of_isFaithful {choice : Choice} (h : choice.isFaithful = true) :
    choice.isClash = true := by
  cases choice with
  | refused e | lost e => cases h
  | _ => rfl

theorem Conditions.Faithful.clashing (h : c.Faithful) (founding : c.founding = []) : c.Clashing :=
  ⟨h.dependable founding, fun _ _ _ hc => Choice.isClash_of_isFaithful (h _ _ hc)⟩

/-- If nothing fails, a record that can be inserted is. -/
theorem Safe.insert_made (faithful : c.Faithful) {op : StoreOp} {r : op.Result} {e : Event}
    {k : Option op.Result → Service α}
    (stores : ∀ l, Later c i past l → ((replay c.founding l).perform op).1 = .ok r ∧
      (replay c.founding l).changes op = [e] ∧ Allowed c l i e)
    (made : ∀ l, Later c i past l → Lawful c (⟨i, e⟩ :: l) →
      Safe c i (fun _ => True) ok bad (k (some r)) (⟨i, e⟩ :: l)) :
    Safe c i (fun _ => True) ok bad (Service.storeUnlessConflict op correlation >>= k) past := by
  intro l hl clock _ choice a hch ha
  obtain ⟨performed, changes, allowed⟩ := stores l hl
  have law : Lawful c (⟨i, e⟩ :: l) := ⟨hl.lawful, allowed⟩
  have faithful := faithful _ _ hch
  cases comesTo ha with
  | performed =>
    simp only [performed, changes]
    exact ⟨fun _ _ => trivial, law, made l hl law⟩
  | refused | lost => cases faithful

/-- If nothing fails, a policy is refused for the first rule that its draft breaks, and for nothing
else. -/
theorem Policies.create_decided (faithful : c.Faithful) (founding : c.founding = [])
    {draft : PolicyDraft} (call : ⟨i, .began (.createPolicy draft correlation)⟩ ∈ past)
    (clean : changesBy past i = []) :
    Safe c i (fun _ => True) (fun _ _ => draft.stripped.objection? = none)
      (fun f _ => ∃ r, f = .rejected r ∧ draft.stripped.objection? = some r)
      (create draft correlation) past := by
  refine create_bind call clean (fun r _ broken _ => ⟨r, rfl, broken⟩) ?_
  intro P l₁ k ready notes _
  refine Safe.insert_made faithful (r := P) (e := .filed P) ?_ ?_
  · intro l hl
    have absent : (replay c.founding l).policy? P.id = none :=
      hl.lawful.policy?_drawn founding (hl.mem ready.drawn)
        ((Later.changesBy_eq hl).trans ready.clean)
    obtain ⟨performed, changes⟩ := Store.insertPolicy_made absent
    exact ⟨performed, changes, ready.filing.later hl.suffix⟩
  · intro l hl law
    obtain ⟨text, said⟩ := notes P
    rw [said]
    exact Safe.note_bind fun _ _ => Safe.done fun _ _ => ready.sound

/-- What a call to create a policy says of its draft when it ends. -/
def Call.Decides : (call : Call) → Except Failure call.Result → Prop
  | .createPolicy draft _, .ok _ => draft.stripped.objection? = none
  | .createPolicy draft _, .error f =>
    ∃ r, f = .rejected r ∧ draft.stripped.objection? = some r
  | _, _ => True

theorem Reachable.decided (faithful : c.Faithful) (founding : c.founding = [])
    (h : Reachable rules c w) {call : Call} {result : Except Failure call.Result}
    (ended : w.Ended i call result) : call.Decides result := by
  have keeps : ∀ i call, KeepsLaw rules c i call (fun a _ => call.Decides (.ok a))
      fun f _ => call.Decides (.error f) := by
    intro i call past law began unused ready
    cases call with
    | createPolicy draft correlation =>
      exact Policies.create_decided faithful founding began (changesBy_eq_nil unused)
    | _ => exact Call.keepsLaw c i _ past law began unused ready
  exact (h.sound keeps).ended (E := fun _ call result _ => call.Decides result) ended

/-! ## Permanence -/

/-- Policies are added behind those that are there. -/
theorem policies_mono {founding : List Policy} {older : Chronicle} (hs : older <:+ past) :
    (replay founding older).policies <+: (replay founding past).policies := by
  obtain ⟨news, rfl⟩ := hs
  induction news with
  | nil => exact List.prefix_rfl
  | cons e news ih =>
    obtain ⟨j, e⟩ := e
    refine ih.trans ?_
    cases e with
    | filed P => exact List.prefix_append _ _
    | wrote b p => cases b <;> exact List.prefix_rfl
    | _ => exact List.prefix_rfl

theorem Lawful.isWellFormed (h : Lawful c past) (founding : c.founding = [])
    (hP : P ∈ (replay c.founding past).policies) : P.IsWellFormed := by
  rw [founding] at hP
  obtain ⟨j, filed⟩ := mem_filed hP
  obtain ⟨older, -, -, allowed⟩ := h.allowed filed
  obtain ⟨call, sound, drawn, seen⟩ : Filing older j P := allowed
  exact PolicyDraft.isWellFormed_toPolicy sound _ _

namespace Store

variable {s : Store}

theorem policy?_of_mem (distinct : (s.policies.map (·.id)).Nodup) (hP : P ∈ s.policies) :
    s.policy? P.id = some P := find?_of_mem distinct hP

/-- A request adds one policy at most, under an identifier that nothing lies under. -/
theorem policies_perform (s : Store) (op : StoreOp) : (s.perform op).2.policies = s.policies ∨
    ∃ P, s.policy? P.id = none ∧ (s.perform op).2.policies = s.policies ++ [P] := by
  cases op with
  | insertPolicy P =>
    cases found : s.policy? P.id with
    | none => exact .inr ⟨P, found, by simp [perform, insertPolicy, written, found]⟩
    | some Q => exact .inl (by simp [perform, insertPolicy, written, found])
  | insertProposal p =>
    cases found : s.proposal? p.id <;> simp [perform, insertProposal, written, found]
  | updateProposal p expected =>
    refine .inl ?_
    simp only [perform, updateProposal]
    split
    · rfl
    · split <;> rfl
  | _ => exact .inl rfl

theorem nodup_perform (distinct : (s.policies.map (·.id)).Nodup) (op : StoreOp) :
    ((s.perform op).2.policies.map (·.id)).Nodup := by
  rcases s.policies_perform op with same | ⟨P, absent, added⟩
  · rwa [same]
  · have unused : P.id ∉ s.policies.map (·.id) := by
      intro taken
      obtain ⟨Q, hQ, same⟩ := List.mem_map.1 taken
      exact List.find?_eq_none.1 absent Q hQ (beq_iff_eq.2 same)
    rw [added, List.map_append]
    exact distinct.append (List.nodup_singleton _) (by simpa using unused)

end Store

/-- No two policies of a store have one identifier, if none did when it was founded. -/
theorem Reachable.nodup_policies (h : Reachable rules c w)
    (founding : (c.founding.map (·.id)).Nodup) : (w.store.policies.map (·.id)).Nodup := by
  induction h with
  | opening clock => exact founding
  | move m before permitted moved ih =>
    cases World.moved moved with
    | started | ticked => exact ih
    | served task answered =>
      cases comesTo answered with
      | performed | lost => exact Store.nodup_perform ih _
      | _ => exact ih

/-! ## The book -/

namespace Reachable

variable {draft : PolicyDraft}

/-- If nothing fails, a call to create a policy returns one exactly if its draft breaks no rule. -/
theorem returned_iff_acceptable (faithful : c.Faithful) (founding : c.founding = [])
    (h : Reachable rules c w) (called : w.calls[i]? = some (.createPolicy draft correlation))
    (ended : w.HasEnded i) :
    (∃ P, w.Returned i (.createPolicy draft correlation) P) ↔ draft.stripped.IsAcceptable := by
  rw [← PolicyDraft.objection?_eq_none_iff]
  constructor
  · rintro ⟨P, returned⟩
    exact h.decided faithful founding returned
  · intro sound
    obtain ⟨result, ended⟩ := ended.of_calls called
    cases result with
    | ok P => exact ⟨P, ended⟩
    | error f =>
      obtain ⟨r, -, broken⟩ : ∃ r, f = .rejected r ∧ draft.stripped.objection? = some r :=
        h.decided faithful founding ended
      rw [sound] at broken
      cases broken

/-- The policy that a call returns is the one that it has stored, on the terms of its draft. -/
theorem filed_of_returned (hc : c.Clashing) (h : Reachable rules c w)
    (returned : w.Returned i (.createPolicy draft correlation) P) :
    P.terms = draft.stripped ∧ changesBy w.chronicle i = [.filed P] ∧ P ∈ w.store.policies := by
  have created : PolicyCreated c i draft P w.chronicle := h.made hc returned
  obtain ⟨t, -, asked⟩ := created.asked
  refine ⟨?_, created.added, ?_⟩
  · rw [asked, PolicyDraft.terms_toPolicy]
  · rw [h.store_eq]
    exact List.mem_of_find?_eq_some created.stored

/-- If nothing fails, a call that does not return a policy was refused, and has stored nothing. -/
theorem refused_of_raised (faithful : c.Faithful) (founding : c.founding = [])
    (h : Reachable rules c w) {f : Failure}
    (raised : w.Raised i (.createPolicy draft correlation) f) :
    ∃ r, f = .rejected r ∧ r.kind = .invalidPolicy ∧ changesBy w.chronicle i = [] := by
  obtain ⟨r, rfl, broken⟩ : ∃ r, f = .rejected r ∧ draft.stripped.objection? = some r :=
    h.decided faithful founding raised
  have untouched : Untouched i (.rejected r) w.chronicle :=
    h.made (faithful.clashing founding) raised
  exact ⟨r, rfl, PolicyDraft.kind_of_objection? broken, untouched r rfl⟩

/-- Whatever happens, each policy is found under its own identifier and is well-formed. -/
theorem policy_in_order (founding : c.founding = []) (h : Reachable rules c w)
    (hP : P ∈ w.store.policies) : w.store.policy? P.id = some P ∧ P.IsWellFormed := by
  have distinct : (w.store.policies.map (·.id)).Nodup :=
    h.nodup_policies (founding ▸ List.nodup_nil)
  refine ⟨Store.policy?_of_mem distinct hP, ?_⟩
  rw [h.store_eq] at hP
  exact h.lawful.isWellFormed founding hP

theorem policy_of_proposal (h : Reachable rules c w) (hp : p ∈ w.store.proposals) :
    ∃ P, w.store.policy? p.policyId = some P := by
  rw [h.store_eq] at hp ⊢
  exact h.lawful.policy_of_written (mem_written_of_mem hp)

end Reachable

/-- Over a store without faults a call to create a policy can be served to its end, and returns a
policy exactly if the draft, without the blanks around its names, breaks no rule. The policy has
these terms, and is the one thing that the call has stored; otherwise the draft is refused as one
for a policy, and nothing is stored. From then on, whatever is called and however the store behaves,
the policies stay as they are, each is well-formed, and each proposal stands under one of them. -/
theorem Reachable.policies_kept (h : Reachable rules .faultless w) :
    (∀ i draft correlation, w.calls[i]? = some (.createPolicy draft correlation) →
      (∃ v, Follows rules Conditions.faultless.permits w v ∧ v.HasEnded i) ∧
      (w.HasEnded i → ((∃ P, w.Returned i (.createPolicy draft correlation) P) ↔
        draft.stripped.IsAcceptable)) ∧
      (∀ P, w.Returned i (.createPolicy draft correlation) P →
        P.terms = draft.stripped ∧ changesBy w.chronicle i = [.filed P] ∧ P ∈ w.store.policies) ∧
      ∀ f, w.Raised i (.createPolicy draft correlation) f →
        ∃ r, f = .rejected r ∧ r.kind = .invalidPolicy ∧ changesBy w.chronicle i = []) ∧
    ∀ v, Follows rules (Conditions.any []).permits w v →
      w.store.policies <+: v.store.policies ∧
      (∀ P ∈ v.store.policies, v.store.policy? P.id = some P ∧ P.IsWellFormed) ∧
      ∀ p ∈ v.store.proposals, ∃ P, v.store.policy? p.policyId = some P := by
  have faithful := Conditions.faultless_faithful
  constructor
  · intro i draft correlation called
    obtain ⟨v, result, follows, ended⟩ := World.exists_end (c := .faultless) rules
      (fun _ _ quiet => Choice.isFaithful_of_isQuiet quiet) called
    exact ⟨⟨v, follows, _, result, ended⟩, h.returned_iff_acceptable faithful rfl called,
      fun P => h.filed_of_returned (faithful.clashing rfl),
      fun f => h.refused_of_raised faithful rfl⟩
  · intro v follows
    have reached : Reachable rules (.any []) v := h.lenient.follows follows
    refine ⟨?_, fun P => reached.policy_in_order rfl, fun p => reached.policy_of_proposal⟩
    rw [h.store_eq, reached.store_eq]
    exact policies_mono follows.chronicle_suffix

namespace OneOfTwo

/-- A draft with blanks around two of its names. -/
def padded : PolicyDraft :=
  ⟨⟨[.char ' ', .char 'n']⟩, [⟨[.char 'b', .char ' ']⟩, letter 'a'], 2, some maxExpirySeconds,
    letter 'c'⟩

/-- A draft that names one signer twice, once with a blank behind the name. -/
def doubled : PolicyDraft := { padded with signers := [letter 'a', ⟨[.char 'a', .char ' ']⟩] }

def enteredMoves : List Move :=
  [.start (.createPolicy padded (letter 'r'))] ++
  serve 0 [.id (letter 'P'), .plain, .plain, .plain] ++
  [.start (.createPolicy doubled (letter 'r')), .start (.createProposal draft (letter 'r'))] ++
  serve 2 [.plain, .plain, .id (letter 'Q'), .plain, .plain]

def entered : World :=
  ((World.opening [] start).play OneOfTwo.rules calm enteredMoves).get (by decide +kernel)

theorem play_entered : (World.opening [] start).play OneOfTwo.rules calm enteredMoves =
    some entered := (Option.some_get _).symm

/-- One draft is accepted without its blanks, another one is refused for them, and a proposal finds
its policy. -/
theorem one_entered_one_refused :
    (∃ P ∈ entered.store.policies, entered.Returned 0 (.createPolicy padded (letter 'r')) P ∧
      P.terms = ⟨letter 'n', [letter 'b', letter 'a'], 2, some maxExpirySeconds, letter 'c'⟩) ∧
    (∃ r, entered.Raised 1 (.createPolicy doubled (letter 'r')) (.rejected r) ∧
      r.kind = .invalidPolicy ∧ changesBy entered.chronicle 1 = []) ∧
    ∃ p ∈ entered.store.proposals, ∃ P, entered.store.policy? p.policyId = some P := by
  have hw : Reachable OneOfTwo.rules .faultless entered := reachable_faultless play_entered
  have calls := World.calls_play play_entered
  obtain ⟨made, book⟩ := Reachable.policies_kept hw
  obtain ⟨-, -, proposals⟩ := book entered .refl
  have first : entered.calls[0]? = some (.createPolicy padded (letter 'r')) := by rw [calls]; rfl
  have second : entered.calls[1]? = some (.createPolicy doubled (letter 'r')) := by rw [calls]; rfl
  refine ⟨?_, ?_, ?_⟩
  · obtain ⟨-, accepted, filed, -⟩ := made 0 padded (letter 'r') first
    have acceptable : padded.stripped.IsAcceptable :=
      PolicyDraft.objection?_eq_none_iff.1 (by decide +kernel)
    obtain ⟨P, returned⟩ :=
      (accepted (.of_hasEnded first (by decide +kernel))).2 acceptable
    obtain ⟨terms, -, stored⟩ := filed P returned
    exact ⟨P, stored, returned, terms.trans (by decide +kernel)⟩
  · obtain ⟨-, -, -, refused⟩ := made 1 doubled (letter 'r') second
    have raised := World.raised_of_failure? second
      (show entered.failure? 1 = some (.rejected (.repeatedSigners [letter 'a'])) by
        decide +kernel)
    obtain ⟨r, same, kind, unchanged⟩ := refused _ raised
    exact ⟨r, same ▸ raised, kind, unchanged⟩
  · obtain ⟨p, hp⟩ := List.exists_mem_of_ne_nil entered.store.proposals (by decide +kernel)
    exact ⟨p, hp, proposals p hp⟩

end OneOfTwo

end QuorumGate
