import QuorumGate.Proofs.Sequential.Overdue

/-!
# Calls made alone

A call that is made alone, while the clock stands still, finds the record at each of its steps as it
found it at the first. So it is told from the record at once what it comes to: an open proposal
within its window takes each signature that it does not refuse, and an approved one is claimed by
the first write.
-/

namespace QuorumGate

variable {n : Nat} {env : Surroundings} {x : Occasion} {d d' : Desk} {p : Proposal} {P : Policy}
  {id correlation : Text} {s : Store}

/-- A call that nothing interferes with, at a time that does not pass. -/
def Call.alone (env : Surroundings) (rules : ExecutionRules) (now : Instant) (ids : Nat → Text)
    (call : Call) (s : Store) : Except Failure call.Result × Desk :=
  Occasion.run env ⟨call, fun _ => now, ids⟩ (call.program rules) ⟨s, 0, 0, []⟩

namespace Store

/-- The store once a record has been put in the place of the one before it. -/
def put (s : Store) (q : Proposal) : Store := { s with proposals := replace q s.proposals }

theorem proposal?_put (q : Proposal) (hp : s.proposal? q.id = some p) (id : Text) :
    (s.put q).proposal? id = if q.id = id then some q else s.proposal? id :=
  proposal?_replace q hp id

/-- A proposal that is stored together with its policy, at the stage that its signatures say as long
as it is open. -/
structure Holding (s : Store) (p : Proposal) (P : Policy) : Prop where
  stored : s.proposal? p.id = some p
  policy : s.policy? p.policyId = some P
  stage : p.status.isTerminal = false → p.status = p.quorumStatus P

end Store

/-- What a reachable world stores. -/
theorem Reachable.holding {rules : ExecutionRules} {w : World} (h : Reachable rules (.any []) w)
    (hp : w.store.proposal? id = some p) : ∃ P, w.store.Holding p P := by
  obtain rfl := Store.id_eq_of_proposal? hp
  have stored := hp
  rw [h.store_eq] at hp
  obtain ⟨P, hP⟩ := h.lawful.backed (mem_written_of_proposal? hp)
  have policy := hP.policy_eq
  have asks := h.lawful.threshold_pos (by simp [Conditions.any]) P
    (List.mem_of_find?_eq_some policy)
  rw [← h.store_eq] at policy
  exact ⟨P, stored, policy, hP.stage asks⟩

namespace Occasion

variable {α β : Type} {program : Service α}

theorem run_bind_ok {a : α} (h : x.run env program d = (.ok a, d')) (k : α → Service β) :
    x.run env (program >>= k) d = x.run env (k a) d' := by
  rw [run_bind, h]

theorem run_bind_error {e : Failure} (h : x.run env program d = (.error e, d'))
    (k : α → Service β) : x.run env (program >>= k) d = (.error e, d') := by
  rw [run_bind, h]

theorem run_load_missing (missing : d.store.proposal? id = none) :
    x.run env (Ledger.load id correlation) d = (.error (.rejected (.noProposal id)), d) := by
  have found : d.store.perform (.getProposal id) = (.ok none, d.store) := by
    rw [Store.perform, missing]
  rw [Ledger.load]
  refine (run_store_bind (.getProposal id) _).trans ?_
  rw [found]
  rfl

end Occasion

/-! ## Signing -/

namespace Ledger.Signing

/-- Whether an open record takes the signature of a signer. -/
def admits (g : Signing) (p : Proposal) : Except Failure Unit :=
  if !g.policy.signers.contains g.signer then
    .error (.rejected (.notASigner g.signer g.policy.id p.id))
  else if p.hasSigned g.signer then .error (.rejected (.alreadySigned g.signer p.id))
  else .ok ()

/-- Whether a signature stands up to the verifier, if there is anything to verify. -/
def accepts (g : Signing) (env : Surroundings) (p : Proposal) : Except Failure Unit :=
  match g.data with
  | none => .ok ()
  | some data =>
    match env.verify g.signer p.payload data with
    | .ok true => .ok ()
    | .ok false => .error (.rejected (.unverified g.signer g.proposal))
    | .error e => .error e

/-- The record with the signature on it. -/
def recorded (g : Signing) (p : Proposal) (id : Text) (now : Instant) : Proposal :=
  let q := p.sign ⟨id, g.signer, g.data, now⟩
  Store.committed (q.withStatus (q.quorumStatus g.policy)) p.version

end Ledger.Signing

namespace Occasion

variable {g : Ledger.Signing} {request : SigningRequest}

/-- A call to sign, as it works on a record. -/
def signing (n : Nat) (P : Policy) (p : Proposal) (request : SigningRequest) (correlation : Text) :
    Ledger.Signing := ⟨p.id, P, request.signer.strip, request.data, n, correlation⟩

theorem run_checkOpen_incomparable {f : TimeFault} (still_open : p.status.isTerminal = false)
    (fault : p.isExpired (x.clock d.looks) = .error f) :
    x.run env (g.checkOpen p) d = (.error (.time f), { d with looks := d.looks + 1 }) := by
  rw [Ledger.Signing.checkOpen, still_open, if_neg (by simp)]
  refine (run_now_bind _).trans ?_
  rw [fault]
  rfl

theorem run_checkOpen_in_window (still_open : p.status.isTerminal = false)
    (in_window : p.isExpired (x.clock d.looks) = .ok false) :
    x.run env (g.checkOpen p) d = (g.admits p, { d with looks := d.looks + 1 }) := by
  rw [Ledger.Signing.checkOpen, still_open, if_neg (by simp)]
  refine (run_now_bind _).trans ((run_timed_bind in_window _).trans ?_)
  rw [Ledger.Signing.admits]
  cases g.policy.signers.contains g.signer with
  | false => rfl
  | true => cases p.hasSigned g.signer <;> rfl

theorem run_checkArtifact : x.run env (g.checkArtifact p) d = (g.accepts env p, d) := by
  rw [Ledger.Signing.checkArtifact, Ledger.Signing.accepts]
  cases g.data with
  | none => rfl
  | some data =>
    show x.run env (Program.ofExcept (env.verify g.signer p.payload data) >>= fun verified => _) d =
      (match env.verify g.signer p.payload data with
        | .ok true => _
        | .ok false => _
        | .error e => _, d)
    rcases env.verify g.signer p.payload data with e | verified
    · rfl
    · cases verified <;> rfl

theorem run_signed (h : d.store.Holding p g.policy) (still_open : p.status.isTerminal = false)
    {s : Signature} {now : Instant} (in_window : p.isExpired now = .ok false) :
    x.run env (g.signed p s now) d =
      (.ok ((p.sign s).withStatus ((p.sign s).quorumStatus g.policy)), d) := by
  have evaluated : (p.sign s).evaluate g.policy now = .ok ((p.sign s).quorumStatus g.policy) := by
    rw [Proposal.evaluate, show (p.sign s).status = p.status from rfl, still_open,
      show (p.sign s).isExpired now = p.isExpired now from rfl, in_window]
    rfl
  have unexpired : (p.sign s).quorumStatus g.policy ≠ .expired :=
    Status.ne_of_isTerminal (Proposal.isTerminal_quorumStatus g.policy _) rfl
  rw [Ledger.Signing.signed]
  refine (run_timed_bind evaluated _).trans ?_
  rw [if_neg unexpired, Status.checkMove,
    if_pos (Proposal.canBecome_quorumStatus (h.stage still_open))]
  rfl

/-- The first attempt succeeds. -/
theorem run_recordWithin (h : d.store.Holding p g.policy) (still_open : p.status.isTerminal = false)
    (in_window : p.isExpired (x.clock d.looks) = .ok false) :
    x.run env (g.recordWithin (n + 1) p) d =
      (.ok (g.recorded p (x.ids d.draws) (x.clock d.looks)),
        ⟨d.store.put (g.recorded p (x.ids d.draws) (x.clock d.looks)), d.looks + 1, d.draws + 1,
          d.orders⟩) := by
  rw [Ledger.Signing.recordWithin]
  refine (run_now_bind _).trans ?_
  refine (run_fresh_bind (d := { d with looks := d.looks + 1 }) _ _).trans ?_
  refine (run_bind_ok (run_signed (d := ⟨d.store, d.looks + 1, d.draws + 1, d.orders⟩) h still_open
    in_window) _).trans ?_
  exact run_write_bind (d := ⟨d.store, d.looks + 1, d.draws + 1, d.orders⟩) _ _
    (Store.perform_update h.stored rfl)

theorem run_sign_missing (missing : d.store.proposal? id = none) :
    x.run env (Ledger.sign n id request correlation) d =
      (.error (.rejected (.noProposal id)), d) := run_bind_error (run_load_missing missing) _

section

variable (h : d.store.Holding p P)
include h

/-- What a call to sign does first, after it has found the record and the policy. -/
theorem run_sign_checked {r : Except Failure Unit}
    (checked : x.run env ((signing n P p request correlation).checkOpen p) d = (r, d')) :
    x.run env (Ledger.sign n p.id request correlation) d =
      x.run env (Program.ofExcept r >>= fun _ =>
        (signing n P p request correlation).checkArtifact p >>= fun _ =>
          (signing n P p request correlation).recordWithin n p) d' := by
  refine (run_load_bind h.stored _).trans ((run_policy_bind h.policy _).trans ?_)
  cases r with
  | ok _ => exact run_bind_ok checked _
  | error e => exact run_bind_error checked _

variable (still_open : p.status.isTerminal = false)
include still_open

theorem run_sign_incomparable {f : TimeFault}
    (fault : p.isExpired (x.clock d.looks) = .error f) :
    x.run env (Ledger.sign n p.id request correlation) d =
      (.error (.time f), { d with looks := d.looks + 1 }) :=
  run_sign_checked h (run_checkOpen_incomparable still_open fault)

/-- Without any attempts, an overdue proposal is not closed. -/
theorem run_sign_unable (late : p.isExpired (x.clock d.looks) = .ok true) :
    x.run env (Ledger.sign 0 p.id request correlation) d =
      (.error (.rejected (.busy p.id .expiry)), { d with looks := d.looks + 1 }) := by
  have checked : x.run env ((signing 0 P p request correlation).checkOpen p) d =
      (.error (.rejected (.busy p.id .expiry)), { d with looks := d.looks + 1 }) := by
    rw [Ledger.Signing.checkOpen, still_open, if_neg (by simp)]
    exact (run_now_bind _).trans (run_timed_bind late _)
  exact run_sign_checked h checked

variable (in_window : p.isExpired (x.clock d.looks) = .ok false)
include in_window

theorem run_sign_refused {e : Failure}
    (refused : (signing n P p request correlation).admits p = .error e) :
    x.run env (Ledger.sign n p.id request correlation) d =
      (.error e, { d with looks := d.looks + 1 }) := by
  rw [run_sign_checked h (run_checkOpen_in_window still_open in_window), refused]
  rfl

theorem run_sign_unaccepted {e : Failure}
    (admitted : (signing n P p request correlation).admits p = .ok ())
    (unaccepted : (signing n P p request correlation).accepts env p = .error e) :
    x.run env (Ledger.sign n p.id request correlation) d =
      (.error e, { d with looks := d.looks + 1 }) := by
  rw [run_sign_checked h (run_checkOpen_in_window still_open in_window), admitted,
    Program.ofExcept, Program.done_bind]
  refine run_bind_error ?_ _
  rw [run_checkArtifact, unaccepted]

theorem run_sign_accepted (admitted : (signing n P p request correlation).admits p = .ok ())
    (accepted : (signing n P p request correlation).accepts env p = .ok ()) :
    x.run env (Ledger.sign n p.id request correlation) d =
      x.run env ((signing n P p request correlation).recordWithin n p)
        { d with looks := d.looks + 1 } := by
  rw [run_sign_checked h (run_checkOpen_in_window still_open in_window), admitted,
    Program.ofExcept, Program.done_bind]
  refine run_bind_ok (a := ()) ?_ _
  rw [run_checkArtifact, accepted]

end

/-! ## Execution -/

theorem run_checkExecutable_incomparable {f : TimeFault} (still_open : p.status.isTerminal = false)
    (fault : p.isExpired (x.clock d.looks) = .error f) :
    x.run env (Executions.checkExecutable n P p correlation) d =
      (.error (.time f), { d with looks := d.looks + 1 }) := by
  rw [Executions.checkExecutable, if_neg (Status.ne_of_isTerminal still_open rfl)]
  refine (run_now_bind _).trans ?_
  rw [Proposal.evaluate_of_open still_open, fault]
  rfl

theorem run_checkExecutable_executed (executed : p.status = .executed) :
    x.run env (Executions.checkExecutable n P p correlation) d =
      (.error (.rejected (.executedBefore p.id p.executedAt)), d) := by
  rw [Executions.checkExecutable, if_pos executed]
  rfl

theorem run_checkExecutable_in_window (still_open : p.status.isTerminal = false)
    (in_window : p.isExpired (x.clock d.looks) = .ok false) :
    x.run env (Executions.checkExecutable n P p correlation) d =
      (if P.threshold ≤ p.signatures.length then .ok ()
        else .error (.rejected (.quorumMissing p.id p.signatures.length P.threshold)),
        { d with looks := d.looks + 1 }) := by
  have evaluated : p.evaluate P (x.clock d.looks) = .ok (p.quorumStatus P) := by
    rw [Proposal.evaluate_of_open still_open, in_window]
    rfl
  rw [Executions.checkExecutable, if_neg (Status.ne_of_isTerminal still_open rfl)]
  refine (run_now_bind _).trans ((run_timed_bind evaluated _).trans ?_)
  rw [Proposal.quorumStatus]
  by_cases quorum : P.threshold ≤ p.signatures.length
  · rw [if_pos quorum, if_pos quorum]
    rfl
  · rw [if_neg quorum, if_neg quorum]
    rfl

theorem run_execute_missing {rules : ExecutionRules} {requested : Option Number}
    (missing : d.store.proposal? id = none) :
    x.run env (Executions.execute rules id requested correlation) d =
      (.error (.rejected (.noProposal id)), { d with draws := d.draws + 1 }) := by
  refine (run_fresh_bind _ _).trans (run_bind_error ?_ _)
  exact run_bind_error (run_load_missing (d := { d with draws := d.draws + 1 }) missing) _

/-- Without any attempts, nothing is claimed. -/
theorem run_execute_unable {limit : Number} {requested : Option Number}
    (h : d.store.Holding p P) :
    x.run env (Executions.execute ⟨0, limit⟩ p.id requested correlation) d =
      (.error (.rejected (.busy p.id .claim)), { d with draws := d.draws + 1 }) := by
  refine (run_fresh_bind _ _).trans (run_bind_error ?_ _)
  refine (run_load_bind (d := { d with draws := d.draws + 1 }) h.stored _).trans ?_
  exact run_policy_bind (d := { d with draws := d.draws + 1 }) h.policy _

/-- A deployment always leads to an outcome, and leaves the store as it is. -/
theorem run_deploy (env : Surroundings) (x : Occasion) (p : Proposal) (execution : Text)
    (limit : Number) (correlation : Text) (d : Desk) :
    ∃ y d', x.run env (Executions.deploy p execution limit correlation) d = (.ok y, d') ∧
      d'.store = d.store := by
  have finish : ∀ landing (d : Desk), ∃ y d',
      x.run env (do
        Executions.noteLanding p.id limit landing
        let now ← Service.now
        return Executions.finished execution limit landing now) d = (.ok y, d') ∧
      d'.store = d.store := by
    intro landing d
    cases landing <;> exact ⟨_, _, rfl, rfl⟩
  unfold Executions.deploy Executions.callDeployer
  cases limit.atMostZero with
  | true => exact finish .timedOut d
  | false => exact finish _ _

/-- The outcome is recorded at the first attempt. -/
theorem run_recordOutcome (env : Surroundings) (x : Occasion) (n : Nat) (y : Execution)
    (correlation : Text) (hp : d.store.proposal? p.id = some p) :
    ∃ d', x.run env (Executions.recordWithin p.id y correlation (n + 1) p) d =
      (.ok (Store.committed (p.withExecution y) p.version), d') :=
  ⟨_, run_write_bind _ _ (Store.perform_update hp rfl)⟩

section

variable (h : d.store.Holding p P) (still_open : p.status.isTerminal = false)
  (in_window : p.isExpired (x.clock d.looks) = .ok false)
  (quorum : P.threshold ≤ p.signatures.length)
include h still_open in_window quorum

/-- The claim of an approved proposal. -/
theorem run_claim {execution : Text} :
    let claimed := Store.committed (p.claim execution (x.clock (d.looks + 1))) p.version
    x.run env (Executions.claim (n + 1) p.id execution correlation) d =
      (.ok claimed, ⟨d.store.put claimed, d.looks + 2, d.draws, d.orders⟩) := by
  refine (run_load_bind h.stored _).trans ((run_policy_bind h.policy _).trans ?_)
  rw [Executions.Claim.within]
  have checked : x.run env (Executions.checkExecutable (n + 1) P p correlation) d =
      (.ok (), { d with looks := d.looks + 1 }) := by
    rw [run_checkExecutable_in_window still_open in_window, if_pos quorum]
  refine (run_bind_ok checked _).trans ?_
  refine (run_now_bind (d := { d with looks := d.looks + 1 }) _).trans ?_
  exact run_write_bind (d := ⟨d.store, d.looks + 2, d.draws, d.orders⟩) _ _
    (Store.perform_update h.stored rfl)

/-- Once a proposal is approved, only its deployment can fail. -/
theorem run_execute_approved {rules : ExecutionRules} {requested : Option Number}
    (able : 0 < rules.attempts) :
    ∃ (y : Execution) (stored : Proposal) (d' : Desk),
      x.run env (Executions.execute rules p.id requested correlation) d =
        (if y.outcome.isFailure then .error (.rejected (.deploymentFailed p.id y.outcome y.detail))
          else .ok (Executions.receipt stored y), d') := by
  obtain ⟨attempts, defaultLimit⟩ := rules
  obtain ⟨left, rfl⟩ := Nat.exists_eq_succ_of_ne_zero (Nat.pos_iff_ne_zero.1 able)
  let claimed := Store.committed (p.claim (x.ids d.draws) (x.clock (d.looks + 1))) p.version
  obtain ⟨y, d₁, deployed, kept⟩ := run_deploy env x claimed (x.ids d.draws)
    (ExecutionRules.limit ⟨left + 1, defaultLimit⟩ requested) correlation
    ⟨d.store.put claimed, d.looks + 2, d.draws + 1, d.orders⟩
  have there : d₁.store.proposal? claimed.id = some claimed := by
    rw [kept, Store.proposal?_put claimed h.stored, if_pos rfl]
  obtain ⟨d₂, recorded⟩ := run_recordOutcome env x left y correlation there
  refine ⟨y, Store.committed (claimed.withExecution y) claimed.version, d₂, ?_⟩
  refine (run_fresh_bind _ _).trans ?_
  refine (run_bind_ok (run_claim (d := { d with draws := d.draws + 1 }) h still_open in_window
    quorum) _).trans ?_
  refine (run_bind_ok deployed _).trans ((run_bind_ok recorded _).trans ?_)
  cases y.outcome.isFailure <;> rfl

end

end Occasion

end QuorumGate
