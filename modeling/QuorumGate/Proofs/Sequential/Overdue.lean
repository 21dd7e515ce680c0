import QuorumGate.Proofs.Sequential.Behind

/-!
# Calls about an overdue proposal

An overdue proposal that is still stored as open is closed by the call that meets it, and one that
has been closed before is left as it is. The call is turned away, or shows the proposal as expired,
in both cases.
-/

namespace QuorumGate

variable {α β : Type} {n : Nat} {env : Surroundings} {x : Occasion} {d : Desk} {p : Proposal}
  {P : Policy} {id correlation : Text} {shown : Instant → Prop} {s t : Store} {now : Instant}

/-- The store once one of its records has been closed. -/
def Store.close (s : Store) (p : Proposal) : Store :=
  { s with proposals := Store.replace p.closed s.proposals }

namespace Store

/-- To put a record in its own place changes nothing. -/
theorem replace_self (distinct : (s.proposals.map (·.id)).Nodup)
    (hp : s.proposal? p.id = some p) : replace p s.proposals = s.proposals := by
  refine (List.map_congr_left fun q hq => ?_).trans (List.map_id _)
  by_cases same : q.id = p.id
  · have hq := proposal?_of_mem distinct hq
    rw [same, hp] at hq
    cases hq
    simp
  · simp [same]

theorem proposal?_close (hp : s.proposal? p.id = some p) (id : Text) :
    (s.close p).proposal? id = if p.id = id then some p.closed else s.proposal? id :=
  proposal?_replace p.closed hp id

end Store

theorem Presentable.closed (h : Presentable s now p P) : Presentable s now p.closed P :=
  ⟨h.policy, fun still_open => (nomatch still_open), h.window, h.created⟩

theorem Kept.close (h : Kept now s) (hp : Presentable s now p P) : Kept now (s.close p) :=
  h.replace hp.closed

namespace Behind

/-- A store is behind what it becomes when an overdue record is closed. -/
theorem close (distinct : (s.proposals.map (·.id)).Nodup) (hp : s.proposal? p.id = some p)
    (h : Swept n shown p p.closed) : Behind n shown s (s.close p) := by
  have closed := (Behind.refl n shown s).replace h
  rw [Store.replace_self distinct hp] at closed
  exact closed

/-- What has been closed in the other store already may be closed in this one. -/
theorem catch_up (h : Behind n shown s t) (distinct : (s.proposals.map (·.id)).Nodup)
    (hp : t.proposal? p.id = some p.closed) : Behind n shown (s.close p) t := by
  have closed := h.replace (p := p.closed) .same
  have distinct' : (t.proposals.map (·.id)).Nodup := by
    rw [Swept.map_id h.proposals]
    exact distinct
  rw [Store.replace_self distinct' (p := p.closed) hp] at closed
  exact closed

end Behind

namespace Occasion

theorem run_expire (able : 0 < n) (hp : d.store.proposal? p.id = some p)
    (still_open : p.status.isTerminal = false) (late : p.isExpired (x.clock d.looks) = .ok true) :
    x.run env (Ledger.expire n p correlation) d =
      (.ok p.closed, { d with store := d.store.close p, looks := d.looks + 1 }) := by
  cases n with
  | zero => cases able
  | succ n =>
    rw [Ledger.expire, Ledger.expireWithin, still_open, if_neg (by simp), run_now_bind,
      run_timed_bind late, if_pos rfl]
    exact run_write_bind _ _ (Store.perform_update hp rfl)

/-- What is terminal already is left as it is. -/
theorem run_expire_closed (able : 0 < n) (closed : p.status.isTerminal = true) :
    x.run env (Ledger.expire n p correlation) d = (.ok p, d) := by
  cases n with
  | zero => cases able
  | succ n =>
    rw [Ledger.expire, Ledger.expireWithin, if_pos closed]
    rfl

/-! ## Signing -/

theorem run_checkOpen {g : Ledger.Signing} (able : 0 < g.attempts)
    (hp : d.store.proposal? p.id = some p) (still_open : p.status.isTerminal = false)
    (late : ∀ i, p.isExpired (x.clock i) = .ok true) :
    x.run env (g.checkOpen p) d = (.error (.rejected (.overdue p.id)),
      { d with store := d.store.close p, looks := d.looks + 2 }) := by
  rw [Ledger.Signing.checkOpen, still_open, if_neg (by simp)]
  refine (run_now_bind _).trans ((run_timed_bind (late _) _).trans ?_)
  rw [if_pos rfl, run_bind,
    run_expire able (d := { d with looks := d.looks + 1 }) hp still_open (late _)]
  rfl

theorem run_checkOpen_closed {g : Ledger.Signing} (closed : p.status.isTerminal = true) :
    x.run env (g.checkOpen p) d = (.error (.rejected (.closed p.id p.status)), d) := by
  rw [Ledger.Signing.checkOpen, if_pos closed]
  rfl

theorem run_sign {request : SigningRequest} (able : 0 < n)
    (hp : d.store.proposal? p.id = some p) (hP : d.store.policy? p.policyId = some P)
    (still_open : p.status.isTerminal = false) (late : ∀ i, p.isExpired (x.clock i) = .ok true) :
    x.run env (Ledger.sign n p.id request correlation) d = (.error (.rejected (.overdue p.id)),
      { d with store := d.store.close p, looks := d.looks + 2 }) := by
  refine (run_load_bind hp _).trans ((run_policy_bind hP _).trans ?_)
  rw [run_bind, run_checkOpen able hp still_open late]

theorem run_sign_closed {request : SigningRequest} (hp : d.store.proposal? p.id = some p)
    (hP : d.store.policy? p.policyId = some P) (closed : p.status.isTerminal = true) :
    x.run env (Ledger.sign n p.id request correlation) d =
      (.error (.rejected (.closed p.id p.status)), d) := by
  refine (run_load_bind hp _).trans ((run_policy_bind hP _).trans ?_)
  rw [run_bind, run_checkOpen_closed closed]

/-! ## Execution -/

theorem evaluate_overdue {t : Instant} (late : p.isExpired t = .ok true)
    (still_open : p.status.isTerminal = false) : p.evaluate P t = .ok .expired := by
  rw [Proposal.evaluate, still_open, if_neg (by simp), late]
  rfl

theorem run_checkExecutable (able : 0 < n) (hp : d.store.proposal? p.id = some p)
    (still_open : p.status.isTerminal = false) (late : ∀ i, p.isExpired (x.clock i) = .ok true) :
    x.run env (Executions.checkExecutable n P p correlation) d =
      (.error (.rejected (.windowClosed p.id p.expiresAt)),
        { d with store := d.store.close p, looks := d.looks + 2 }) := by
  rw [Executions.checkExecutable, if_neg (Status.ne_of_isTerminal still_open rfl)]
  refine (run_now_bind _).trans ?_
  refine (run_timed_bind (evaluate_overdue (late _) still_open) _).trans ?_
  rw [if_pos rfl, run_bind,
    run_expire able (d := { d with looks := d.looks + 1 }) hp still_open (late _)]
  rfl

theorem run_checkExecutable_closed (able : 0 < n) (closed : p.status = .expired) :
    x.run env (Executions.checkExecutable n P p correlation) d =
      (.error (.rejected (.windowClosed p.id p.expiresAt)), { d with looks := d.looks + 1 }) := by
  have stage : p.evaluate P (x.clock d.looks) = .ok .expired := by
    rw [Proposal.evaluate, closed]
    rfl
  rw [Executions.checkExecutable, if_neg (by simp [closed])]
  refine (run_now_bind _).trans ((run_timed_bind stage _).trans ?_)
  rw [if_pos rfl, run_bind, run_expire_closed able (by rw [closed]; rfl)]
  rfl

/-- A call to execute that is refused by its checks is refused. -/
theorem run_execute {rules : ExecutionRules} {requested : Option Number} {e : Failure} {d' : Desk}
    (able : 0 < rules.attempts) (hp : d.store.proposal? p.id = some p)
    (hP : d.store.policy? p.policyId = some P)
    (refused : x.run env (Executions.checkExecutable rules.attempts P p correlation)
      { d with draws := d.draws + 1 } = (.error e, d')) :
    x.run env (Executions.execute rules p.id requested correlation) d = (.error e, d') := by
  obtain ⟨attempts, defaultLimit⟩ := rules
  cases attempts with
  | zero => cases able
  | succ left =>
    refine (run_fresh_bind _ _).trans ?_
    rw [run_bind, Executions.claim,
      run_load_bind (d := { d with draws := d.draws + 1 }) hp,
      run_policy_bind (d := { d with draws := d.draws + 1 }) hP, Executions.Claim.within, run_bind,
      refused]

/-! ## Queries -/

theorem run_get {t : Status} (hp : d.store.proposal? p.id = some p)
    (hP : d.store.policy? p.policyId = some P) (stage : p.evaluate P (x.clock d.looks) = .ok t) :
    x.run env (Ledger.get p.id correlation) d =
      (.ok (p.withStatus t), { d with looks := d.looks + 1 }) := by
  refine (run_load_bind hp _).trans ((run_policy_bind hP _).trans ((run_now_bind _).trans ?_))
  rw [Proposal.viewAt, stage]
  rfl

theorem run_overview {t : Status} (hp : d.store.proposal? p.id = some p)
    (hP : d.store.policy? p.policyId = some P) (stage : p.evaluate P (x.clock d.looks) = .ok t) :
    x.run env (Queries.overview p.id correlation) d =
      (.ok ⟨p.withStatus t, P, p.signatures.length, P.threshold, p.remaining P, p.pendingSigners P⟩,
        { d with looks := d.looks + 1 }) := by
  rw [Queries.overview, run_bind, run_get hp hP stage]
  exact run_policy_bind (d := { d with looks := d.looks + 1 }) hP _

theorem run_payload (hp : d.store.proposal? p.id = some p) :
    x.run env (Ledger.payload p.id correlation) d = (.ok p.payload, d) := run_load_bind hp _

end Occasion

end QuorumGate
