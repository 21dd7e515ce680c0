import QuorumGate.Proofs.Sequential.Overdue

/-!
# Calls that cannot tell two stores apart

A call over a store and the same call over one that it is behind come to the same, but for the
versions of the proposals that they show and for how they say that a proposal is closed. The one
store is behind the other afterwards as well.
-/

namespace QuorumGate

/-- A proposal without the count of its writes. -/
def Proposal.unversioned (p : Proposal) : Proposal := { p with version := 0 }

/-- What a call has returned, without the counts of writes that occur in it. -/
def Call.unversioned : (c : Call) → c.Result → c.Result
  | createProposal .., p => Proposal.unversioned p
  | sign .., p => Proposal.unversioned p
  | proposal .., p => Proposal.unversioned p
  | proposals .., ps => ps.map Proposal.unversioned
  | overview .., o => { o with proposal := o.proposal.unversioned }
  | _, r => r

/-- Two outcomes of one call that differ in versions at most, or in how they say that a proposal is
closed. -/
inductive Alike : Upshot → Upshot → Prop where
  | returned {call : Call} {a b : call.Result} {orders : List (Order × Number)}
      (same : call.unversioned a = call.unversioned b) :
      Alike ⟨call, .ok a, orders⟩ ⟨call, .ok b, orders⟩
  | raised {call : Call} {e : Failure} {orders : List (Order × Number)} :
      Alike ⟨call, .error e, orders⟩ ⟨call, .error e, orders⟩
  | terminal {call : Call} {r r' : Rejection} {orders : List (Order × Number)}
      (hr : r.kind = .proposalTerminal) (hr' : r'.kind = .proposalTerminal) :
      Alike ⟨call, .error (.rejected r), orders⟩ ⟨call, .error (.rejected r'), orders⟩

theorem Alike.refl (u : Upshot) : Alike u u := by
  obtain ⟨call, result, orders⟩ := u
  cases result with
  | ok a => exact .returned rfl
  | error e => exact .raised

theorem Alike.orders_eq {u v : Upshot} (h : Alike u v) : v.orders = u.orders := by
  cases h <;> rfl

/-- The runs of one call over two stores. -/
structure Matched (n : Nat) (shown : Instant → Prop) (now : Instant) (call : Call)
    (r r' : Except Failure call.Result × Desk) : Prop where
  alike : Alike ⟨call, r.1, r.2.orders⟩ ⟨call, r'.1, r'.2.orders⟩
  behind : Behind n shown r.2.store r'.2.store
  kept : Kept now r.2.store

variable {α β : Type} {n : Nat} {env : Surroundings} {rules : ExecutionRules} {x : Occasion}
  {call : Call} {d : Desk} {p q : Proposal} {P : Policy} {id correlation : Text}
  {subject : Option Text} {ok : call.Result → Prop} {shown : Instant → Prop} {s t : Store}
  {now : Instant} {filter : Option Status} {limit : Int}

/-! ## Calls about one proposal -/

/-- A proposal is open in one store although it is overdue, and has been closed in the other one. -/
structure Lags (n : Nat) (x : Occasion) (now : Instant) (s t : Store) (p : Proposal) (P : Policy) :
    Prop where
  able : 0 < n
  here : s.proposal? p.id = some p
  there : t.proposal? p.id = some p.closed
  presentable : Presentable s now p P
  policies : t.policies = s.policies
  still_open : p.status.isTerminal = false
  late : ∀ i, p.isExpired (x.clock i) = .ok true

namespace Lags

theorem policy (h : Lags n x now s t p P) : t.policy? p.policyId = some P := by
  rw [Store.policy?, h.policies]
  exact h.presentable.policy

theorem evaluate (h : Lags n x now s t p P) (i : Nat) :
    p.evaluate P (x.clock i) = .ok .expired :=
  Occasion.evaluate_overdue (h.late i) h.still_open

end Lags

theorem Behind.inStep (h : Behind n shown s t) (k : Kept now s)
    (same : ∀ id, subject = some id → t.proposal? id = s.proposal? id) :
    InStep s now subject n shown s t := by
  refine ⟨h, k, fun _ _ hP => hP, same, fun id p _ hp => ?_⟩
  obtain ⟨P, hP⟩ := k.presentable p (Store.mem_of_proposal? hp)
  exact ⟨P, hP, p, hp, rfl⟩

namespace Matched

theorem of_inStep (rules : ExecutionRules) (h : InStep s now subject n shown s t)
    (hp : About s now subject ok (call.program rules)) :
    Matched n shown now call (x.run env (call.program rules) ⟨s, 0, 0, []⟩)
      (x.run env (call.program rules) ⟨t, 0, 0, []⟩) := by
  obtain ⟨u, made, after⟩ := InStep.run (d := ⟨s, 0, 0, []⟩) h hp env x
  rw [show (⟨t, 0, 0, []⟩ : Desk) = { (⟨s, 0, 0, []⟩ : Desk) with store := t } from rfl, made]
  exact ⟨.refl _, after.behind, after.kept⟩

/-- A call about one proposal needs to be looked at where this proposal lags behind only. -/
theorem of_lag (rules : ExecutionRules) (h : Behind n shown s t) (k : Kept now s)
    (hs : ∀ i, shown (x.clock i)) (hp : About s now (some id) ok (call.program rules))
    (lag : ∀ p P, p.id = id → Lags n x now s t p P →
      Matched n shown now call (x.run env (call.program rules) ⟨s, 0, 0, []⟩)
        (x.run env (call.program rules) ⟨t, 0, 0, []⟩)) :
    Matched n shown now call (x.run env (call.program rules) ⟨s, 0, 0, []⟩)
      (x.run env (call.program rules) ⟨t, 0, 0, []⟩) := by
  rcases h.proposal?_cases id with same | ⟨p, here, there, able, still_open, overdue⟩
  · refine of_inStep rules (h.inStep k fun y hy => ?_) hp
    rw [← Option.some.inj hy, same]
  · obtain ⟨P, hP⟩ := k.presentable p (Store.mem_of_proposal? here)
    have hid := Store.id_eq_of_proposal? here
    refine lag p P hid ⟨able, hid ▸ here, hid ▸ there, hP, h.policies, still_open, ?_⟩
    exact fun i => overdue _ (hs i)

/-- The call that has met the open record has closed it, so that it is closed in both stores. -/
theorem of_closing (h : Behind n shown s t) (k : Kept now s) (lag : Lags n x now s t p P)
    {r r' : Rejection} {i j i' j' : Nat} {orders : List (Order × Number)}
    (same : r = r' ∨ r.kind = .proposalTerminal ∧ r'.kind = .proposalTerminal) :
    Matched n shown now call (.error (.rejected r), ⟨s.close p, i, j, orders⟩)
      (.error (.rejected r'), ⟨t, i', j', orders⟩) := by
  refine ⟨?_, h.catch_up k.distinct lag.there, k.close lag.presentable⟩
  rcases same with rfl | ⟨hr, hr'⟩
  · exact .raised
  · exact .terminal hr hr'

theorem of_eq {r₁ r₂ r₁' r₂' : Except Failure call.Result × Desk} (here : r₁ = r₂)
    (there : r₁' = r₂') (h : Matched n shown now call r₂ r₂') :
    Matched n shown now call r₁ r₁' := by
  rw [here, there]
  exact h

section

variable (h : Behind rules.attempts shown s t) (k : Kept now s) (hs : ∀ i, shown (x.clock i))

include h k hs

theorem sign {request : SigningRequest} :
    Matched rules.attempts shown now (.sign id request correlation)
      (x.run env (Ledger.sign rules.attempts id request correlation) ⟨s, 0, 0, []⟩)
      (x.run env (Ledger.sign rules.attempts id request correlation) ⟨t, 0, 0, []⟩) := by
  refine of_lag rules h k hs Ledger.sign_about fun p P hid lag => ?_
  subst hid
  exact of_eq
    (Occasion.run_sign (d := ⟨s, 0, 0, []⟩) lag.able lag.here lag.presentable.policy lag.still_open
      lag.late)
    (Occasion.run_sign_closed (d := ⟨t, 0, 0, []⟩) (p := p.closed) lag.there lag.policy rfl)
    (of_closing h k lag (.inr ⟨rfl, rfl⟩))

theorem execute {requested : Option Number} :
    Matched rules.attempts shown now (.execute id requested correlation)
      (x.run env (Executions.execute rules id requested correlation) ⟨s, 0, 0, []⟩)
      (x.run env (Executions.execute rules id requested correlation) ⟨t, 0, 0, []⟩) := by
  refine of_lag rules h k hs Executions.execute_about fun p P hid lag => ?_
  subst hid
  exact of_eq
    (Occasion.run_execute (d := ⟨s, 0, 0, []⟩) lag.able lag.here lag.presentable.policy
      (Occasion.run_checkExecutable lag.able lag.here lag.still_open lag.late))
    (Occasion.run_execute (d := ⟨t, 0, 0, []⟩) (p := p.closed) lag.able lag.there lag.policy
      (Occasion.run_checkExecutable_closed lag.able rfl))
    (of_closing h k lag (.inl rfl))

theorem proposal :
    Matched rules.attempts shown now (.proposal id correlation)
      (x.run env (Ledger.get id correlation) ⟨s, 0, 0, []⟩)
      (x.run env (Ledger.get id correlation) ⟨t, 0, 0, []⟩) := by
  refine of_lag rules h k hs Ledger.get_about fun p P hid lag => ?_
  subst hid
  exact of_eq
    (Occasion.run_get (d := ⟨s, 0, 0, []⟩) lag.here lag.presentable.policy (lag.evaluate 0))
    (Occasion.run_get (d := ⟨t, 0, 0, []⟩) (p := p.closed) lag.there lag.policy rfl)
    ⟨.returned rfl, h, k⟩

theorem overview :
    Matched rules.attempts shown now (.overview id correlation)
      (x.run env (Queries.overview id correlation) ⟨s, 0, 0, []⟩)
      (x.run env (Queries.overview id correlation) ⟨t, 0, 0, []⟩) := by
  refine of_lag rules h k hs Queries.overview_about fun p P hid lag => ?_
  subst hid
  exact of_eq
    (Occasion.run_overview (d := ⟨s, 0, 0, []⟩) lag.here lag.presentable.policy (lag.evaluate 0))
    (Occasion.run_overview (d := ⟨t, 0, 0, []⟩) (p := p.closed) lag.there lag.policy rfl)
    ⟨.returned rfl, h, k⟩

theorem payload :
    Matched rules.attempts shown now (.payload id correlation)
      (x.run env (Ledger.payload id correlation) ⟨s, 0, 0, []⟩)
      (x.run env (Ledger.payload id correlation) ⟨t, 0, 0, []⟩) := by
  refine of_lag rules h k hs Ledger.payload_about fun p P hid lag => ?_
  subst hid
  exact of_eq (Occasion.run_payload (d := ⟨s, 0, 0, []⟩) lag.here)
    (Occasion.run_payload (d := ⟨t, 0, 0, []⟩) (p := p.closed) lag.there) ⟨.returned rfl, h, k⟩

end

end Matched

/-! ## Listings -/

theorem Presentable.of_aware {u : Instant} (h : Presentable s now p P)
    (aware : u.isAware = now.isAware) : Presentable s u p P :=
  ⟨h.policy, h.stage, fun t ht => aware.trans (h.window t ht), h.created.trans aware.symm⟩

theorem Kept.of_aware {u : Instant} (h : Kept now s) (aware : u.isAware = now.isAware) :
    Kept u s := by
  refine ⟨h.distinct, fun p hp => ?_, h.sound⟩
  obtain ⟨P, hP⟩ := h.presentable p hp
  exact ⟨P, hP.of_aware aware⟩

theorem Swept.presentable (h : Swept n shown p q) (hp : Presentable s now p P) :
    Presentable s now q P := by
  cases h with
  | same => exact hp
  | closed _ _ _ => exact hp.closed

theorem Behind.isPresentable (h : Behind n shown s t) (hs : s.IsPresentable now) :
    t.IsPresentable now := by
  obtain ⟨policies, both⟩ := h
  have known : ∀ id Q, s.policy? id = some Q → t.policy? id = some Q := by
    intro id Q hQ
    rw [Store.policy?, policies]
    exact hQ
  intro q hq
  obtain ⟨p, hp, swept⟩ := Swept.exists_source both hq
  obtain ⟨P, hP⟩ := hs p hp
  exact ⟨P, (swept.presentable hP).of_policies known⟩

theorem map_upTo (f : α → β) (xs : List α) : (upTo limit xs).map f = upTo limit (xs.map f) := by
  unfold upTo
  split <;> simp

theorem unversioned_listing (filter : Option Status) (limit : Int) (ps : List Proposal) :
    (upTo limit (newest (ps.filter (Ledger.wanted filter)))).map Proposal.unversioned =
      upTo limit (newest ((ps.map Proposal.unversioned).filter (Ledger.wanted filter))) := by
  rw [map_upTo, map_newest (f := Proposal.unversioned) fun _ => rfl, List.filter_map]
  rfl

/-- What is shown of a record does not tell whether it has been closed before. -/
theorem Swept.unversioned_view {view view' : Proposal → Proposal} {ps qs : List Proposal}
    (h : List.Forall₂ (Swept n shown) ps qs) (hs : shown now) (policies : t.policies = s.policies)
    (views : Views s now ps view) (views' : Views t now qs view') :
    (ps.map view).map Proposal.unversioned = (qs.map view').map Proposal.unversioned := by
  induction h with
  | nil => rfl
  | @cons p q ps qs hp _ ih =>
    have rest := ih (fun r hr => views r (List.mem_cons_of_mem p hr))
      (fun r hr => views' r (List.mem_cons_of_mem q hr))
    obtain ⟨P, hP, hview⟩ := views p List.mem_cons_self
    obtain ⟨Q, hQ, hview'⟩ := views' q List.mem_cons_self
    have one : (view p).unversioned = (view' q).unversioned := by
      cases hp with
      | same =>
        rw [Store.policy?, policies] at hQ
        obtain rfl := Option.some.inj (hP.symm.trans hQ)
        rw [Except.ok.inj (hview.symm.trans hview')]
      | closed _ still_open overdue =>
        have here := Occasion.evaluate_overdue (P := P) (overdue now hs) still_open
        rw [Proposal.viewAt, here] at hview
        rw [← Except.ok.inj hview, ← Except.ok.inj hview']
        rfl
    rw [List.map_cons, List.map_cons, List.map_cons, List.map_cons, one, rest]

theorem Occasion.run_list {ps : List Proposal} {r : Except Failure (List Proposal)}
    (listed : d.store.listProposals (filter.map Ledger.candidates) = .ok ps)
    (found : Finds d.store (Ledger.present filter limit correlation ps (x.clock d.looks)) r) :
    x.run env (Ledger.list filter limit correlation) d = (r, { d with looks := d.looks + 1 }) := by
  rw [Ledger.list_eq]
  refine (run_store_bind _ _).trans ?_
  have performed : d.store.perform (.listProposals (filter.map Ledger.candidates)) =
      (.ok ps, d.store) := by
    rw [Store.perform, listed]
  rw [performed]
  exact (run_now_bind _).trans (run_finds (d := { d with looks := d.looks + 1 }) found)

namespace Matched

theorem proposals (h : Behind n shown s t) (k : Kept now s) (hs : ∀ i, shown (x.clock i))
    (aware : ∀ i, (x.clock i).isAware = now.isAware) :
    Matched n shown now (.proposals filter limit correlation)
      (x.run env (Ledger.list filter limit correlation) ⟨s, 0, 0, []⟩)
      (x.run env (Ledger.list filter limit correlation) ⟨t, 0, 0, []⟩) := by
  have here := (k.of_aware (aware 0)).presentable
  have there := h.isPresentable here
  obtain ⟨view, views, restaged, candidate⟩ := here.exists_views
  obtain ⟨view', views', restaged', candidate'⟩ := there.exists_views
  obtain ⟨ps, listed, found⟩ :=
    Ledger.present_finds here views restaged candidate filter limit correlation
  obtain ⟨qs, listed', found'⟩ :=
    Ledger.present_finds there views' restaged' candidate' filter limit correlation
  refine of_eq (Occasion.run_list (d := ⟨s, 0, 0, []⟩) listed found)
    (Occasion.run_list (d := ⟨t, 0, 0, []⟩) listed' found') ⟨.returned ?_, h, k⟩
  rw [Call.unversioned, Call.unversioned, unversioned_listing, unversioned_listing,
    Swept.unversioned_view h.proposals (hs 0) h.policies views views']

end Matched

/-! ## Creation -/

/-- The rest of a creation, once it is known what is to be inserted. -/
def Ledger.place (policy : Policy) (p : Proposal) (correlation : Text) : Service Proposal := do
  let inserted ← Service.storeUnlessConflict (.insertProposal p) correlation
  let stored ← match inserted with
    | some q => pure q
    | none => recoverInsert p correlation
  Service.note .info .ledger
    ("created proposal " ++ stored.id ++ " for contract " ++ stored.contractId ++
      s!" on {stored.network.word} under policy " ++ policy.id)
  return stored

/-- A draft as it is checked and inserted under a policy. -/
def ProposalDraft.under (draft : ProposalDraft) (P : Policy) : ProposalDraft :=
  { draft.normalized with policyId := P.id }

namespace Occasion

variable {draft : ProposalDraft} {expiresAt : Option Instant}

theorem run_create_missing (missing : d.store.policy? draft.policyId = none) :
    x.run env (Ledger.create draft correlation) d =
      (.error (.rejected (.noPolicy draft.policyId)), d) := by
  have found : d.store.perform (.getPolicy draft.policyId) = (.ok none, d.store) := by
    rw [Store.perform, missing]
  rw [Ledger.create, Policies.get, Program.bind_assoc]
  refine (run_store_bind _ _).trans ?_
  rw [found]
  rfl

theorem run_create_refused {r : Rejection} (hP : d.store.policy? draft.policyId = some P)
    (refused : (draft.under P).check = .error r) :
    x.run env (Ledger.create draft correlation) d = (.error (.rejected r), d) := by
  refine (run_policy_bind hP _).trans ?_
  show x.run env (Service.guard (draft.under P).check >>= _) d = _
  rw [refused]
  rfl

theorem run_create_unending {f : TimeFault} (hP : d.store.policy? draft.policyId = some P)
    (sound : (draft.under P).check = .ok ()) (fault : P.expiryAt (x.clock d.looks) = .error f) :
    x.run env (Ledger.create draft correlation) d =
      (.error (.time f), { d with looks := d.looks + 1 }) := by
  refine (run_policy_bind hP _).trans ?_
  show x.run env (Service.guard (draft.under P).check >>= _) d = _
  rw [sound]
  refine (run_now_bind _).trans ?_
  rw [fault]
  rfl

theorem run_create (hP : d.store.policy? draft.policyId = some P)
    (sound : (draft.under P).check = .ok ())
    (window : P.expiryAt (x.clock d.looks) = .ok expiresAt) :
    x.run env (Ledger.create draft correlation) d =
      x.run env (Ledger.place P
          ((draft.under P).toProposal (x.ids d.draws) (x.clock d.looks) expiresAt) correlation)
        { d with looks := d.looks + 1, draws := d.draws + 1 } := by
  refine (run_policy_bind hP _).trans ?_
  show x.run env (Service.guard (draft.under P).check >>= _) d = _
  rw [sound]
  refine (run_now_bind _).trans ?_
  rw [window]
  exact run_fresh_bind (d := { d with looks := d.looks + 1 }) _ _

theorem run_place (free : d.store.proposal? p.id = none) :
    x.run env (Ledger.place P p correlation) d =
      (.ok p, { d with store := { d.store with proposals := d.store.proposals ++ [p] } }) :=
  run_write_bind _ _ (Store.perform_insert free)

/-- What is stored under the identifier already is what comes of it, if it agrees with what was to
be inserted. -/
theorem run_place_taken (taken : d.store.proposal? p.id = some q) :
    x.run env (Ledger.place P p correlation) d =
      (if q.sameCreation p then .ok q else .error (.rejected (.proposalIdTaken p.id)), d) := by
  have found : d.store.perform (.getProposal p.id) = (.ok (some q), d.store) := by
    rw [Store.perform, taken]
  have refused : x.answer env (.store (.insertProposal p) correlation) d =
      (.error (.conflict p.id 0 (.version 1)), d) := by
    simp only [answer, Store.perform_insert_taken taken]
  have recovered : x.run env (Ledger.recoverInsert p correlation) d =
      (if q.sameCreation p then .ok q else .error (.rejected (.proposalIdTaken p.id)), d) := by
    refine (run_store_bind _ _).trans ?_
    rw [found]
    show x.run env (if q.sameCreation p = true then _ else _) d = _
    split <;> rfl
  rw [Ledger.place, Service.storeUnlessConflict, Program.ask_bind, run_ask, refused]
  show x.run env (Ledger.recoverInsert p correlation >>= _) d = _
  rw [run_bind, recovered]
  cases q.sameCreation p <;> rfl

end Occasion

/-- The window of a new proposal is still open, unlike that of an overdue one. -/
theorem Policy.IsSound.not_sameCreation {u : Instant} (sound : P.IsSound)
    (window : P.expiryAt u = .ok q.expiresAt) (late : p.isExpired u = .ok true) :
    p.sameCreation q = false := by
  obtain ⟨t, ht, passed⟩ := Proposal.overdue_of_isExpired late
  have ends := (Policy.ticks_expiryAt window).1
  have apart : sameMoment p.expiresAt q.expiresAt = false := by
    rw [ht]
    cases hv : q.expiresAt with
    | none => rfl
    | some v =>
      rw [hv] at ends
      cases hn : P.expirySeconds with
      | none =>
        rw [hn] at ends
        cases ends
      | some n =>
        have positive := sound.window n hn
        rw [hn] at ends
        have later : v.ticks = u.ticks + n * microsPerSecond := Option.some.inj ends
        have ne : t.ticks ≠ v.ticks := by
          simp only [microsPerSecond] at later
          omega
        simp [sameMoment, Instant.same, ne]
  rw [Proposal.sameCreation, apart, Bool.and_false]

/-- A new proposal is pending, since its policy asks for a signature. -/
theorem Presentable.of_created {draft : ProposalDraft} {u : Instant} {expiresAt : Option Instant}
    (hP : s.policy? draft.policyId = some P) (sound : P.IsSound)
    (window : P.expiryAt u = .ok expiresAt) (id : Text) :
    Presentable s u ((draft.under P).toProposal id u expiresAt) P := by
  refine ⟨?_, fun _ => ?_, fun t ht => ?_, rfl⟩
  · rw [← Store.id_eq_of_policy? hP] at hP
    exact hP
  · have asks := sound.threshold
    show Status.pending = _
    rw [Proposal.quorumStatus, if_neg]
    simp only [ProposalDraft.toProposal, List.length_nil]
    omega
  · obtain rfl : expiresAt = some t := ht
    exact (Policy.isAware_expiryAt window).symm

namespace Matched

theorem place {i j : Nat} {draft : ProposalDraft} (h : Behind n shown s t) (k : Kept now s)
    (hs : shown (x.clock 0)) (hp : Presentable s now p P)
    (unlike : ∀ q : Proposal, q.isExpired (x.clock 0) = .ok true → q.sameCreation p = false) :
    Matched n shown now (.createProposal draft correlation)
      (x.run env (Ledger.place P p correlation) ⟨s, i, j, []⟩)
      (x.run env (Ledger.place P p correlation) ⟨t, i, j, []⟩) := by
  rcases h.proposal?_cases p.id with same | ⟨q, here, there, -, -, overdue⟩
  -- The identifier is free in both stores, or it names the same proposal in both.
  · cases here : s.proposal? p.id with
    | none =>
      exact of_eq (Occasion.run_place (d := ⟨s, i, j, []⟩) here)
        (Occasion.run_place (d := ⟨t, i, j, []⟩) (same.trans here))
        ⟨.returned rfl, h.insert p, k.insert here hp⟩
    | some q =>
      exact of_eq (Occasion.run_place_taken (d := ⟨s, i, j, []⟩) here)
        (Occasion.run_place_taken (d := ⟨t, i, j, []⟩) (same.trans here)) ⟨.refl _, h, k⟩
  -- It names an overdue proposal, with which the new one does not agree.
  · have other : q.sameCreation p = false := unlike q (overdue _ hs)
    have other' : q.closed.sameCreation p = false := other
    refine of_eq (Occasion.run_place_taken (d := ⟨s, i, j, []⟩) here)
      (Occasion.run_place_taken (d := ⟨t, i, j, []⟩) there) ⟨?_, h, k⟩
    rw [other, other']
    exact .raised

theorem createProposal {draft : ProposalDraft} (h : Behind n shown s t) (k : Kept now s)
    (hs : ∀ i, shown (x.clock i)) (aware : ∀ i, (x.clock i).isAware = now.isAware) :
    Matched n shown now (.createProposal draft correlation)
      (x.run env (Ledger.create draft correlation) ⟨s, 0, 0, []⟩)
      (x.run env (Ledger.create draft correlation) ⟨t, 0, 0, []⟩) := by
  cases hP : s.policy? draft.policyId with
  | none =>
    refine of_eq (Occasion.run_create_missing hP) (Occasion.run_create_missing ?_) ⟨.raised, h, k⟩
    rw [h.policy?, hP]
  | some P =>
    have hP' : t.policy? draft.policyId = some P := by rw [h.policy?, hP]
    cases sound : (draft.under P).check with
    | error r =>
      exact of_eq (Occasion.run_create_refused hP sound) (Occasion.run_create_refused hP' sound)
        ⟨.raised, h, k⟩
    | ok _ =>
      cases window : P.expiryAt (x.clock 0) with
      | error f =>
        exact of_eq (Occasion.run_create_unending hP sound window)
          (Occasion.run_create_unending hP' sound window) ⟨.raised, h, k⟩
      | ok expiresAt =>
        have soundP : P.IsSound := k.sound P (List.mem_of_find?_eq_some hP)
        have created := Presentable.of_created hP soundP window (x.ids 0)
        refine of_eq (Occasion.run_create (d := ⟨s, 0, 0, []⟩) hP sound window)
          (Occasion.run_create (d := ⟨t, 0, 0, []⟩) hP' sound window) ?_
        exact place h k (hs 0) (created.of_aware (aware 0).symm)
          fun q late => soundP.not_sameCreation window late

end Matched

end QuorumGate
