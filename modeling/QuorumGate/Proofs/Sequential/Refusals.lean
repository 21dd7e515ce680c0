import QuorumGate.Proofs.Sequential.Alone
import QuorumGate.Proofs.Sequential.Sweeps

/-!
# What a failed call leaves

A call that fails has changed nothing and has had nothing deployed, except that one which finds its
proposal open and overdue closes it before it says so. Only a call whose deployment failed has done
more than that.
-/

namespace QuorumGate

/-- A proposal is stored as open although its window is over. -/
def Proposal.isLeftOpen (p : Proposal) (now : Instant) : Bool :=
  !p.status.isTerminal && decide (p.isExpired now = .ok true)

/-- Whether the failure of a call says that a proposal is closed to what was asked. -/
def Call.turnsAway (p : Proposal) : Call → Failure → Bool
  | sign id _ _, .rejected r => p.id == id && r.kind == .proposalTerminal
  | execute id _ _, .rejected r => p.id == id && r.kind == .proposalExpired
  | _, _ => false

/-- Whether a call that fails has closed a proposal. -/
def Call.closes (call : Call) (e : Failure) (now : Instant) (p : Proposal) : Bool :=
  call.turnsAway p e && p.isLeftOpen now

/-- What a failed call leaves of a store: nothing is ordered, no policy has changed, and no proposal
except one that it has closed, of which the stage and the version have changed. -/
structure Call.Leaves (call : Call) (e : Failure) (now : Instant) (s : Store) (d : Desk) :
    Prop where
  orders : d.orders = []
  policies : d.store.policies = s.policies
  proposals : d.store.proposals = s.proposals.map fun p =>
    if call.closes e now p then { p with status := .expired, version := p.version + 1 } else p

variable {rules : ExecutionRules} {env : Surroundings} {now : Instant} {ids : Nat → Text}
  {call : Call} {e : Failure} {s : Store} {d : Desk} {p : Proposal} {P : Policy}
  {id correlation : Text} {w : World}

namespace Call.Leaves

theorem untouched (orders : d.orders = []) (store : d.store = s)
    (idle : ∀ p ∈ s.proposals, call.closes e now p = false) : call.Leaves e now s d := by
  refine ⟨orders, by rw [store], ?_⟩
  rw [store]
  refine ((List.map_congr_left fun p hp => ?_).trans (List.map_id _)).symm
  rw [idle p hp]
  rfl

/-- A failure that says nothing of a closed proposal. -/
theorem of_other (orders : d.orders = []) (store : d.store = s)
    (other : ∀ p, call.turnsAway p e = false) : call.Leaves e now s d :=
  .untouched orders store fun p _ => by rw [closes, other, Bool.false_and]

variable (keyed : ∀ q ∈ s.proposals, s.proposal? q.id = some q)
  (hp : s.proposal? p.id = some p)
include keyed hp

/-- A failure that says something of a proposal which the call did not have to close. -/
theorem of_settled (orders : d.orders = []) (store : d.store = s)
    (about : ∀ q, call.turnsAway q e = true → q.id = p.id) (settled : p.isLeftOpen now = false) :
    call.Leaves e now s d := by
  refine .untouched orders store fun q hq => ?_
  rw [closes, Bool.and_eq_false_iff, or_iff_not_imp_left, Bool.not_eq_false]
  intro turned
  -- No other record has this identifier.
  have same := keyed q hq
  rw [about q turned, hp] at same
  cases same
  exact settled

theorem of_close (orders : d.orders = []) (store : d.store = s.close p)
    (about : ∀ q, call.turnsAway q e = (q.id == p.id)) (left_open : p.isLeftOpen now = true) :
    call.Leaves e now s d := by
  refine ⟨orders, by rw [store]; rfl, ?_⟩
  rw [store]
  refine List.map_congr_left fun q hq => ?_
  rw [closes, about q]
  by_cases same : q.id = p.id
  · have found := keyed q hq
    rw [same, hp] at found
    cases found
    show (if p.id == p.id then p.closed else p) = _
    rw [left_open, beq_self_eq_true]
    rfl
  · show (if q.id == p.id then p.closed else q) = _
    rw [beq_false_of_ne same]
    rfl

end Call.Leaves

namespace Proposal

theorem isLeftOpen_of_terminal (closed : p.status.isTerminal = true) :
    p.isLeftOpen now = false := by
  rw [isLeftOpen, closed]
  rfl

theorem isLeftOpen_of_in_window (in_window : p.isExpired now = .ok false) :
    p.isLeftOpen now = false := by
  rw [isLeftOpen, in_window, Bool.and_eq_false_iff]
  exact .inr rfl

theorem isLeftOpen_of_late (still_open : p.status.isTerminal = false)
    (late : p.isExpired now = .ok true) : p.isLeftOpen now = true := by
  rw [isLeftOpen, still_open, late]
  rfl

end Proposal

/-! ## The calls -/

/-- The rest of the filing of a policy, once it is known what is to be inserted. -/
def Policies.shelve (p : Policy) (correlation : Text) : Service Policy := do
  let inserted ← Service.storeUnlessConflict (.insertPolicy p) correlation
  let stored ← match inserted with
    | some q => pure q
    | none => recoverInsert p correlation
  Service.note .info .policies
    ("created policy " ++ stored.id ++ s!" ({stored.threshold}-of-{stored.signers.length}, " ++
      s!"expiry={expiryText stored.expirySeconds})")
  return stored

namespace Occasion

variable {x : Occasion} {d' : Desk}

theorem run_shelve (free : d.store.policy? P.id = none) :
    x.run env (Policies.shelve P correlation) d =
      (.ok P, { d with store := { d.store with policies := d.store.policies ++ [P] } }) := by
  have filed : d.store.perform (.insertPolicy P) =
      (.ok P, { d.store with policies := d.store.policies ++ [P] }) := by
    simp [Store.perform, Store.insertPolicy, free, Store.written]
  exact run_write_bind _ _ filed

theorem run_shelve_taken {Q : Policy} (taken : d.store.policy? P.id = some Q) :
    x.run env (Policies.shelve P correlation) d =
      (if Q.same P then .ok Q else .error (.rejected (.policyIdTaken P.id)), d) := by
  have refused : x.answer env (.store (.insertPolicy P) correlation) d =
      (.error (.conflict P.id 0 (.version 1)), d) := by
    simp [answer, Store.perform, Store.insertPolicy, taken, Store.written]
  have found : d.store.perform (.getPolicy P.id) = (.ok (some Q), d.store) := by
    rw [Store.perform, taken]
  have recovered : x.run env (Policies.recoverInsert P correlation) d =
      (if Q.same P then .ok Q else .error (.rejected (.policyIdTaken P.id)), d) := by
    refine (run_store_bind _ _).trans ?_
    rw [found]
    show x.run env (if Q.same P = true then _ else _) d = _
    split <;> rfl
  rw [Policies.shelve, Service.storeUnlessConflict, Program.ask_bind, run_ask, refused]
  show x.run env (Policies.recoverInsert P correlation >>= _) d = _
  rw [run_bind, recovered]
  cases Q.same P <;> rfl

/-- Within the window of an open proposal, a signature that is not recorded leaves nothing. -/
theorem run_sign_kept {n : Nat} {request : SigningRequest} (h : d.store.Holding p P)
    (still_open : p.status.isTerminal = false)
    (in_window : ∀ i, p.isExpired (x.clock i) = .ok false)
    (failed : x.run env (Ledger.sign n p.id request correlation) d = (.error e, d')) :
    d'.store = d.store ∧ d'.orders = d.orders := by
  cases admitted : (signing n P p request correlation).admits p with
  | error f =>
    cases (run_sign_refused h still_open (in_window _) admitted).symm.trans failed
    exact ⟨rfl, rfl⟩
  | ok _ =>
    cases accepted : (signing n P p request correlation).accepts env p with
    | error f =>
      cases (run_sign_unaccepted h still_open (in_window _) admitted accepted).symm.trans failed
      exact ⟨rfl, rfl⟩
    | ok _ =>
      rw [run_sign_accepted h still_open (in_window _) admitted accepted] at failed
      cases n with
      | zero =>
        cases failed
        exact ⟨rfl, rfl⟩
      | succ left =>
        rw [run_recordWithin (d := { d with looks := d.looks + 1 }) h still_open
          (in_window _)] at failed
        cases failed

/-- A proposal within its window is claimed if it is approved, and left as it is if not. -/
theorem run_execute_kept {requested : Option Number} (h : d.store.Holding p P)
    (still_open : p.status.isTerminal = false)
    (in_window : p.isExpired (x.clock d.looks) = .ok false)
    (able : 0 < rules.attempts)
    (failed : x.run env (Executions.execute rules p.id requested correlation) d = (.error e, d'))
    (other : ∀ r, e = .rejected r → r.kind ≠ .executionFailed) :
    d'.store = d.store ∧ d'.orders = d.orders := by
  by_cases quorum : P.threshold ≤ p.signatures.length
  · obtain ⟨y, stored, d₁, ended⟩ := run_execute_approved h still_open in_window quorum able
    have told := ended.symm.trans failed
    cases bad : y.outcome.isFailure with
    | false =>
      rw [bad] at told
      cases told
    | true =>
      rw [bad] at told
      cases told
      exact absurd rfl (other _ rfl)
  · have refused : x.run env (Executions.checkExecutable rules.attempts P p correlation)
        { d with draws := d.draws + 1 } =
          (.error (.rejected (.quorumMissing p.id p.signatures.length P.threshold)),
            { d with looks := d.looks + 1, draws := d.draws + 1 }) := by
      rw [run_checkExecutable_in_window (d := { d with draws := d.draws + 1 }) still_open in_window,
        if_neg quorum]
    cases (run_execute able h.stored h.policy refused).symm.trans failed
    exact ⟨rfl, rfl⟩

theorem run_createPolicy_kept {draft : PolicyDraft}
    (failed : x.run env (Policies.create draft correlation) d = (.error e, d')) :
    d'.store = d.store ∧ d'.orders = d.orders := by
  cases checked : draft.stripped.check with
  | error r =>
    have refused : x.run env (Policies.create draft correlation) d = (.error (.rejected r), d) := by
      show x.run env (Service.guard draft.stripped.check >>= _) d = _
      rw [checked]
      rfl
    cases refused.symm.trans failed
    exact ⟨rfl, rfl⟩
  | ok _ =>
    obtain ⟨filed, rest⟩ : ∃ P, x.run env (Policies.create draft correlation) d =
        x.run env (Policies.shelve P correlation)
          { d with looks := d.looks + 1, draws := d.draws + 1 } := by
      refine ⟨draft.stripped.toPolicy (x.ids d.draws) (x.clock d.looks), ?_⟩
      show x.run env (Service.guard draft.stripped.check >>= _) d = _
      rw [checked]
      rfl
    rw [rest] at failed
    cases hQ : d.store.policy? filed.id with
    | none =>
      rw [run_shelve (d := ⟨d.store, d.looks + 1, d.draws + 1, d.orders⟩) hQ] at failed
      cases failed
    | some Q =>
      rw [run_shelve_taken (d := ⟨d.store, d.looks + 1, d.draws + 1, d.orders⟩) hQ] at failed
      rw [← (Prod.mk.inj failed).2]
      exact ⟨rfl, rfl⟩

theorem run_create_kept {draft : ProposalDraft}
    (failed : x.run env (Ledger.create draft correlation) d = (.error e, d')) :
    d'.store = d.store ∧ d'.orders = d.orders := by
  cases hP : d.store.policy? draft.policyId with
  | none =>
    cases (run_create_missing hP).symm.trans failed
    exact ⟨rfl, rfl⟩
  | some P =>
    cases sound : (draft.under P).check with
    | error r =>
      cases (run_create_refused hP sound).symm.trans failed
      exact ⟨rfl, rfl⟩
    | ok _ =>
      cases window : P.expiryAt (x.clock d.looks) with
      | error f =>
        cases (run_create_unending hP sound window).symm.trans failed
        exact ⟨rfl, rfl⟩
      | ok expiresAt =>
        rw [run_create hP sound window] at failed
        let p := (draft.under P).toProposal (x.ids d.draws) (x.clock d.looks) expiresAt
        cases hq : d.store.proposal? p.id with
        | none =>
          rw [run_place (d := ⟨d.store, d.looks + 1, d.draws + 1, d.orders⟩) hq] at failed
          cases failed
        | some q =>
          rw [run_place_taken (d := ⟨d.store, d.looks + 1, d.draws + 1, d.orders⟩) hq] at failed
          rw [← (Prod.mk.inj failed).2]
          exact ⟨rfl, rfl⟩

end Occasion

namespace Call

variable {x : Occasion}

theorem eq_of_turnsAway_sign {request : SigningRequest} {q : Proposal}
    (h : (sign id request correlation).turnsAway q e = true) : q.id = id := by
  cases e with
  | rejected r => exact beq_iff_eq.1 (Bool.and_eq_true_iff.1 h).1
  | _ => cases h

theorem eq_of_turnsAway_execute {requested : Option Number} {q : Proposal}
    (h : (execute id requested correlation).turnsAway q e = true) : q.id = id := by
  cases e with
  | rejected r => exact beq_iff_eq.1 (Bool.and_eq_true_iff.1 h).1
  | _ => cases h

section

variable (keyed : ∀ q ∈ s.proposals, s.proposal? q.id = some q)
  (held : ∀ id p, s.proposal? id = some p → ∃ P, s.Holding p P) (still : ∀ i, x.clock i = now)
include keyed held still

theorem sign_leaves {n : Nat} {request : SigningRequest}
    (failed : x.run env (Ledger.sign n id request correlation) ⟨s, 0, 0, []⟩ = (.error e, d)) :
    (sign id request correlation).Leaves e now s d := by
  cases hp : s.proposal? id with
  | none =>
    cases (Occasion.run_sign_missing hp).symm.trans failed
    exact .of_other rfl rfl fun _ => Bool.and_false _
  | some p =>
    obtain ⟨P, hP⟩ := held id p hp
    obtain rfl := Store.id_eq_of_proposal? hp
    cases closed : p.status.isTerminal with
    | true =>
      cases (Occasion.run_sign_closed hp hP.policy closed).symm.trans failed
      exact .of_settled keyed hp rfl rfl (fun _ => eq_of_turnsAway_sign)
        (Proposal.isLeftOpen_of_terminal closed)
    | false =>
      have window : ∀ i, p.isExpired (x.clock i) = p.isExpired now := fun i => by rw [still]
      match late : p.isExpired now with
      | .error f =>
        cases (Occasion.run_sign_incomparable hP closed ((window 0).trans late)).symm.trans failed
        exact .of_other rfl rfl fun _ => rfl
      | .ok false =>
        have kept := Occasion.run_sign_kept hP closed (fun i => (window i).trans late) failed
        exact .of_settled keyed hp kept.2 kept.1 (fun _ => eq_of_turnsAway_sign)
          (Proposal.isLeftOpen_of_in_window late)
      | .ok true =>
        cases n with
        | zero =>
          cases (Occasion.run_sign_unable hP closed ((window 0).trans late)).symm.trans failed
          exact .of_other rfl rfl fun _ => Bool.and_false _
        | succ left =>
          cases (Occasion.run_sign left.succ_pos hp hP.policy closed
            fun i => (window i).trans late).symm.trans failed
          exact .of_close keyed hp rfl rfl (fun _ => Bool.and_true _)
            (Proposal.isLeftOpen_of_late closed late)

theorem execute_leaves {requested : Option Number}
    (failed : x.run env (Executions.execute rules id requested correlation) ⟨s, 0, 0, []⟩ =
      (.error e, d))
    (other : ∀ r, e = .rejected r → r.kind ≠ .executionFailed) :
    (execute id requested correlation).Leaves e now s d := by
  cases hp : s.proposal? id with
  | none =>
    cases (Occasion.run_execute_missing hp).symm.trans failed
    exact .of_other rfl rfl fun _ => Bool.and_false _
  | some p =>
    obtain ⟨P, hP⟩ := held id p hp
    obtain rfl := Store.id_eq_of_proposal? hp
    obtain ⟨attempts, limit⟩ := rules
    cases attempts with
    | zero =>
      cases (Occasion.run_execute_unable hP).symm.trans failed
      exact .of_other rfl rfl fun _ => Bool.and_false _
    | succ left =>
      have able : 0 < left + 1 := left.succ_pos
      have refuse : ∀ {f d'}, x.run env
          (Executions.checkExecutable (left + 1) P p correlation) ⟨s, 0, 1, []⟩ = (.error f, d') →
          e = f ∧ d = d' := fun refused => by
        cases (Occasion.run_execute able hp hP.policy refused).symm.trans failed
        exact ⟨rfl, rfl⟩
      cases closed : p.status.isTerminal with
      | true =>
        have settled : p.isLeftOpen now = false := Proposal.isLeftOpen_of_terminal closed
        cases stage : p.status with
        | executed =>
          obtain ⟨rfl, rfl⟩ := refuse (Occasion.run_checkExecutable_executed stage)
          exact .of_settled keyed hp rfl rfl (fun _ => eq_of_turnsAway_execute) settled
        | expired =>
          obtain ⟨rfl, rfl⟩ := refuse (Occasion.run_checkExecutable_closed able stage)
          exact .of_settled keyed hp rfl rfl (fun _ => eq_of_turnsAway_execute) settled
        | pending => rw [stage] at closed; cases closed
        | approved => rw [stage] at closed; cases closed
      | false =>
        have window : ∀ i, p.isExpired (x.clock i) = p.isExpired now := fun i => by rw [still]
        match late : p.isExpired now with
        | .error f =>
          obtain ⟨rfl, rfl⟩ := refuse (Occasion.run_checkExecutable_incomparable closed
            ((window 0).trans late))
          exact .of_other rfl rfl fun _ => rfl
        | .ok false =>
          have kept := Occasion.run_execute_kept hP closed ((window 0).trans late) able failed other
          exact .of_settled keyed hp kept.2 kept.1 (fun _ => eq_of_turnsAway_execute)
            (Proposal.isLeftOpen_of_in_window late)
        | .ok true =>
          obtain ⟨rfl, rfl⟩ := refuse (Occasion.run_checkExecutable able (d := ⟨s, 0, 1, []⟩) hp
            closed fun i => (window i).trans late)
          exact .of_close keyed hp rfl rfl (fun _ => Bool.and_true _)
            (Proposal.isLeftOpen_of_late closed late)

end

/-- A call that asks for a record to be made or changed. -/
def IsCommand : Call → Prop
  | createPolicy .. | createProposal .. | sign .. | execute .. => True
  | _ => False

end Call

/-- A command that fails for another reason than its deployment has ordered none. It leaves every
record as it was, except a proposal that was open and overdue, if the failure says that it is
closed: this one is stored as expired then. -/
theorem Reachable.failure_leaves (h : Reachable rules (.any []) w) (command : call.IsCommand)
    (failed : call.alone env rules now ids w.store = (.error e, d))
    (other : ∀ r, e = .rejected r → r.kind ≠ .executionFailed) : call.Leaves e now w.store d := by
  have keyed : ∀ q ∈ w.store.proposals, w.store.proposal? q.id = some q := by
    rw [h.store_eq]
    exact fun q hq => h.lawful.proposal?_of_mem hq
  have held : ∀ id p, w.store.proposal? id = some p → ∃ P, w.store.Holding p P :=
    fun _ _ => h.holding
  cases call with
  | createPolicy draft correlation =>
    have kept := Occasion.run_createPolicy_kept failed
    exact .of_other kept.2 kept.1 fun _ => by cases e <;> rfl
  | createProposal draft correlation =>
    have kept := Occasion.run_create_kept failed
    exact .of_other kept.2 kept.1 fun _ => by cases e <;> rfl
  | sign id request correlation => exact Call.sign_leaves keyed held (fun _ => rfl) failed
  | execute id requested correlation =>
    exact Call.execute_leaves keyed held (fun _ => rfl) failed other
  | _ => exact command.elim

namespace OneOfTwo

/-- A proposal that was approved in time. -/
def approved : World :=
  ((World.opening [] start).play OneOfTwo.rules calm windowed).get (by decide +kernel)

theorem play_approved :
    (World.opening [] start).play OneOfTwo.rules calm windowed = some approved :=
  (Option.some_get _).symm

/-- An execution that is asked for too late closes the proposal, and does nothing else. -/
theorem late_execution_leaves :
    let call := Call.execute (letter 'Q') none (letter 'r')
    let outcome :=
      call.alone obliging OneOfTwo.rules afterwards (fun _ => letter 'E') approved.store
    let e := Failure.rejected (.windowClosed (letter 'Q') (some (minute 1)))
    outcome.1 = .error e ∧ call.Leaves e afterwards approved.store outcome.2 ∧
      approved.store.proposals.map (·.status) = [.approved] ∧
      outcome.2.store.proposals.map (·.status) = [.expired] := by
  intro call outcome e
  have hw : Reachable OneOfTwo.rules (.any []) approved := (reachable_calm play_approved).lenient
  have failed : outcome.1 = .error e := by decide +kernel
  refine ⟨failed, ?_, by decide +kernel, by decide +kernel⟩
  refine Reachable.failure_leaves hw trivial (Prod.ext failed rfl) fun r hr => ?_
  rw [← Failure.rejected.inj hr]
  decide

end OneOfTwo

end QuorumGate
