import QuorumGate.Proofs.Concurrency.Dependable
import QuorumGate.Proofs.Concurrency.Stage

/-!
# What programs fail with

What a program can fail with is written into it, as soon as it is known what its surroundings may
reply. Here every write may report a conflict, reads of one record do not fail, the times of the
clock and of the records can be compared with each other, and a verifier fails in ways of its own. A
conflict is caught wherever it comes up, and a call that signs or executes never meets times that it
cannot compare.
-/

namespace QuorumGate

/-- A failure of the gate's own: a refusal, a conflict, or times that cannot be compared. -/
def Failure.isOwn : Failure → Bool
  | rejected _ | conflict .. | time _ => true
  | _ => false

/-- A failure that no caller should see: a conflict, or times that cannot be compared. -/
def Failure.isInternal : Failure → Bool
  | conflict .. | time _ => true
  | _ => false

theorem Failure.isInternal_of_isOwn {e : Failure} (h : e.isOwn = false) : e.isInternal = false := by
  cases e with
  | rejected | conflict | time => cases h
  | _ => rfl

theorem Failure.isConflict_of_isInternal {e : Failure} (h : e.isInternal = false) :
    e.isConflict = false := by
  cases e with
  | conflict => cases h
  | _ => rfl

/-- The end of a window, if there is one, is a time of a certain kind. -/
def Proposal.Windowed (aware : Bool) (p : Proposal) : Prop :=
  ∀ t, p.expiresAt = some t → t.isAware = aware

/-- What is found in a contended store: reads of one record do not fail, and windows end at times of
one kind. -/
def StoreOp.Finds (aware : Bool) : (op : StoreOp) → Except Failure op.Result → Prop
  | .getPolicy _, reply => ∃ P, reply = .ok P
  | .getProposal _, reply => ∃ found, reply = .ok found ∧ ∀ p, found = some p → p.Windowed aware
  | .listProposals _, reply => ∀ ps, reply = .ok ps → ∀ p ∈ ps, p.Windowed aware
  | _, _ => True

/-- What contended surroundings reply: writes fail with conflicts, and reads do not. -/
def Effect.Contended (aware : Bool) : (r : Effect) → r.Reply → Prop
  | .now, t => t.isAware = aware
  | .store op _, reply =>
    (∀ e, reply = .error e → e.isConflict = !op.isRead) ∧ op.Finds aware reply
  | .verify .., verdict => ∀ e, verdict = .error e → e.isOwn = false
  | _, _ => True

/-- In contended surroundings, a program comes to a result as it should be, or it fails in one of
certain ways. -/
def FailsOnly (aware : Bool) (fair : Failure → Prop) (ok : α → Prop) : Service α → Prop
  | .done a => ok a
  | .fail e => fair e
  | .ask r next => ∀ reply, r.Contended aware reply → FailsOnly aware fair ok (next reply)

variable {aware : Bool} {fair fair' : Failure → Prop} {α β : Type} {ok : α → Prop}
  {ok' : β → Prop} {program : Service α} {p : Proposal} {id correlation : Text} {n : Nat}

namespace FailsOnly

theorem bind {k : α → Service β} (h : FailsOnly aware fair ok program)
    (hk : ∀ a, ok a → FailsOnly aware fair ok' (k a)) :
    FailsOnly aware fair ok' (program >>= k) := by
  induction program with
  | done a => exact hk a h
  | fail e => exact h
  | ask r next ih => exact fun reply hr => ih reply (h reply hr)

/-- A failure that is given as a value. -/
theorem attempt (h : FailsOnly aware fair ok program) :
    FailsOnly aware fair' (fun x => ∀ e, x = .error e → fair e)
      (program.attempt : Service (Except Failure α)) := by
  induction program with
  | done a => exact fun e he => nomatch he
  | fail e => exact fun e' he => Except.error.inj he ▸ h
  | ask r next ih => exact fun reply hr => ih reply (h reply hr)

theorem reject {r : Rejection} (h : fair (.rejected r)) :
    FailsOnly aware fair ok (Service.reject r) := h

theorem reject_bind {r : Rejection} {k : β → Service α} (h : fair (.rejected r)) :
    FailsOnly aware fair ok (Service.reject r >>= k) := h

theorem ofExcept_bind {ε : Type} {x : Except ε α} {f : ε → Failure} {k : α → Service β}
    (hk : ∀ a, x = .ok a → FailsOnly aware fair ok' (k a)) (hf : ∀ e, x = .error e → fair (f e)) :
    FailsOnly aware fair ok' ((Program.ofExcept (x.mapError f) : Service α) >>= k) := by
  cases x with
  | ok a => exact hk a rfl
  | error e => exact hf e rfl

theorem timed {x : Except TimeFault α} (hf : ∀ f, x = .error f → fair (.time f)) :
    FailsOnly aware fair (fun _ => True) (Service.timed x) := by
  cases x with
  | ok a => exact trivial
  | error f => exact hf f rfl

theorem guard {x : Except Rejection α} (refused : ∀ r, fair (.rejected r)) :
    FailsOnly aware fair (fun _ => True) (Service.guard x) := by
  cases x with
  | ok a => exact trivial
  | error r => exact refused r

theorem now_bind {k : Instant → Service α}
    (hk : ∀ t, t.isAware = aware → FailsOnly aware fair ok (k t)) :
    FailsOnly aware fair ok (Service.now >>= k) := hk

theorem fresh_bind {kind : IdKind} {k : Text → Service α}
    (hk : ∀ x, FailsOnly aware fair ok (k x)) :
    FailsOnly aware fair ok (Service.fresh kind >>= k) := fun x _ => hk x

theorem note_bind {level : Level} {channel : Channel} {text : Text} {k : Unit → Service α}
    (hk : FailsOnly aware fair ok (k ())) :
    FailsOnly aware fair ok (Service.note level channel text >>= k) := fun _ _ => hk

/-- A read that fails does not fail with a conflict. -/
theorem read_bind {op : StoreOp} {k : op.Result → Service α} (hop : op.isRead = true)
    (hk : ∀ r, op.Finds aware (.ok r) → FailsOnly aware fair ok (k r))
    (hf : ∀ e, op.Finds aware (.error e) → e.isConflict = false → fair e) :
    FailsOnly aware fair ok (Service.store op correlation >>= k) := by
  rintro reply ⟨failed, found⟩
  cases reply with
  | ok r => exact hk r found
  | error e => exact hf e found (by rw [failed e rfl, hop]; rfl)

/-- A write that fails has met a conflict. -/
theorem write_bind {op : StoreOp} {k : Option op.Result → Service α} (hop : op.isRead = false)
    (hk : ∀ r, FailsOnly aware fair ok (k r)) :
    FailsOnly aware fair ok (Service.storeUnlessConflict op correlation >>= k) := by
  rintro reply ⟨failed, -⟩
  cases reply with
  | ok r => exact hk (some r)
  | error e =>
    have conflict : e.isConflict = true := by rw [failed e rfl, hop]; rfl
    cases e with
    | conflict => exact hk none
    | _ => cases conflict

theorem verify_bind {signer : Text} {payload : String} {signature : Text} {k : Bool → Service α}
    (hk : ∀ b, FailsOnly aware fair ok (k b)) (hf : ∀ e : Failure, e.isOwn = false → fair e) :
    FailsOnly aware fair ok (Service.verify signer payload signature >>= k) := by
  intro reply foreign
  cases reply with
  | ok b => exact hk b
  | error e => exact hf e (foreign e rfl)

theorem load_bind {k : Proposal → Service α}
    (hk : ∀ p, p.Windowed aware → FailsOnly aware fair ok (k p))
    (missing : fair (.rejected (.noProposal id))) :
    FailsOnly aware fair ok (Ledger.load id correlation >>= k) := by
  rw [Ledger.load, Program.bind_assoc]
  refine read_bind rfl ?_ ?_
  · rintro found ⟨_, he, windowed⟩
    cases he
    cases found with
    | none => exact missing
    | some p => exact hk p (windowed p rfl)
  · rintro e ⟨_, he, -⟩
    cases he

theorem policy_bind {k : Policy → Service α} (hk : ∀ P, FailsOnly aware fair ok (k P))
    (missing : fair (.rejected (.noPolicy id))) :
    FailsOnly aware fair ok (Policies.get id correlation >>= k) := by
  rw [Policies.get, Program.bind_assoc]
  refine read_bind rfl ?_ ?_
  · intro found _
    cases found with
    | none => exact missing
    | some P => exact hk P
  · rintro e ⟨_, he⟩
    cases he

end FailsOnly

/-- In contended surroundings, a program fails only with a refusal or a foreign failure. -/
abbrev FailsPlainly (aware : Bool) (program : Service α) : Prop :=
  FailsOnly aware (·.isInternal = false) (fun _ => True) program

/-- In contended surroundings, a program does not fail with a conflict. -/
abbrev CatchesConflicts (aware : Bool) (program : Service α) : Prop :=
  FailsOnly aware (·.isConflict = false) (fun _ => True) program

namespace Proposal.Windowed

variable {t : Instant}

theorem isExpired_ok (h : p.Windowed aware) (ht : t.isAware = aware) :
    ∃ expired, p.isExpired t = .ok expired := by
  obtain ⟨expired, he, -⟩ := isExpired_eq fun u hu => ht.trans (h u hu).symm
  exact ⟨expired, he⟩

theorem isExpired_ne_error (h : p.Windowed aware) (ht : t.isAware = aware) (f : TimeFault) :
    p.isExpired t ≠ .error f := by
  obtain ⟨expired, he⟩ := h.isExpired_ok ht
  intro fault
  rw [he] at fault
  cases fault

theorem evaluate_ne_error (h : p.Windowed aware) (ht : t.isAware = aware) (P : Policy)
    (f : TimeFault) : p.evaluate P t ≠ .error f := by
  obtain ⟨expired, he⟩ := h.isExpired_ok ht
  intro fault
  rw [evaluate, he] at fault
  split at fault
  · cases fault
  · cases fault

theorem sign (h : p.Windowed aware) (s : Signature) : (p.sign s).Windowed aware := h

end Proposal.Windowed

/-! ## Proposals -/

namespace Ledger

/-- An expiry is fair if it is fair that the first record cannot be compared with the clock. -/
theorem expireWithin_fails (refused : ∀ r, fair (.rejected r))
    (hp : ∀ t f, t.isAware = aware → p.isExpired t = .error f → fair (.time f)) :
    FailsOnly aware fair (fun _ => True) (expireWithin id correlation n p) := by
  induction n generalizing p with
  | zero => exact FailsOnly.reject (refused _)
  | succ n ih =>
    rw [expireWithin]
    cases p.status.isTerminal with
    | true => exact trivial
    | false =>
      refine FailsOnly.now_bind fun t ht => FailsOnly.ofExcept_bind ?_ fun f => hp t f ht
      intro expired _
      cases expired with
      | false => exact trivial
      | true =>
        refine FailsOnly.write_bind rfl fun r => ?_
        cases r with
        | some q => exact FailsOnly.note_bind trivial
        | none =>
          refine FailsOnly.load_bind (fun q hq => ?_) (refused _)
          exact ih fun t f ht he => absurd he (hq.isExpired_ne_error ht f)

theorem expire_fails (hp : p.Windowed aware) : FailsPlainly aware (expire n p correlation) :=
  expireWithin_fails (fun _ => rfl) fun _ f ht he => absurd he (hp.isExpired_ne_error ht f)

theorem expire_then_reject_fails {k : β → Service α} {r : Rejection} (hp : p.Windowed aware) :
    FailsPlainly aware
      (do
        let _ ← expire n p correlation
        let x ← (Service.reject r : Service β)
        k x) :=
  (expire_fails hp).bind fun _ _ => FailsOnly.reject_bind rfl

namespace Signing

variable {g : Signing}

theorem checkOpen_fails (hp : p.Windowed aware) : FailsPlainly aware (g.checkOpen p) := by
  unfold checkOpen
  cases p.status.isTerminal with
  | true => exact FailsOnly.reject_bind rfl
  | false =>
    refine FailsOnly.now_bind fun t ht => FailsOnly.ofExcept_bind ?_
      fun f he => absurd he (hp.isExpired_ne_error ht f)
    intro expired _
    cases expired with
    | true => exact expire_then_reject_fails hp
    | false =>
      cases g.policy.signers.contains g.signer with
      | false => exact FailsOnly.reject_bind rfl
      | true =>
        cases p.hasSigned g.signer with
        | true => exact FailsOnly.reject rfl
        | false => exact trivial

theorem checkArtifact_fails : FailsPlainly aware (g.checkArtifact p) := by
  unfold checkArtifact
  cases g.data with
  | none => exact trivial
  | some data =>
    refine FailsOnly.verify_bind (fun verified => ?_) fun _ => Failure.isInternal_of_isOwn
    cases verified with
    | true => exact trivial
    | false => exact FailsOnly.note_bind (FailsOnly.reject rfl)

theorem signed_fails {s : Signature} {now : Instant} (hp : p.Windowed aware)
    (ht : now.isAware = aware) : FailsPlainly aware (g.signed p s now) := by
  unfold signed
  refine FailsOnly.ofExcept_bind ?_ fun f he =>
    absurd he ((hp.sign s).evaluate_ne_error ht g.policy f)
  intro next _
  by_cases late : next = .expired
  · rw [if_pos late]
    exact expire_then_reject_fails hp
  · rw [if_neg late]
    exact FailsOnly.ofExcept_bind (fun _ _ => trivial) fun _ _ => rfl

theorem recordWithin_fails (hp : p.Windowed aware) : FailsPlainly aware (g.recordWithin n p) := by
  induction n generalizing p with
  | zero => exact FailsOnly.reject rfl
  | succ n ih =>
    rw [recordWithin]
    refine FailsOnly.now_bind fun now ht => FailsOnly.fresh_bind fun sid => ?_
    refine (signed_fails hp ht).bind fun q _ => FailsOnly.write_bind rfl fun r => ?_
    cases r with
    | some stored => exact FailsOnly.note_bind trivial
    | none =>
      refine FailsOnly.note_bind ?_
      by_cases last : n = 0
      · rw [if_pos last]
        exact FailsOnly.reject rfl
      · rw [if_neg last]
        refine FailsOnly.load_bind (fun q hq => ?_) rfl
        cases q.signatures.any (Signature.same ⟨sid, g.signer, g.data, now⟩) with
        | true => exact trivial
        | false => exact (checkOpen_fails hq).bind fun _ _ => ih hq

end Signing

theorem sign_fails {request : SigningRequest} :
    FailsPlainly aware (sign n id request correlation) := by
  unfold sign
  refine FailsOnly.load_bind (fun p hp => FailsOnly.policy_bind (fun P => ?_) rfl) rfl
  refine (Signing.checkOpen_fails hp).bind fun _ _ => ?_
  exact Signing.checkArtifact_fails.bind fun _ _ => Signing.recordWithin_fails hp

theorem create_fails {draft : ProposalDraft} :
    CatchesConflicts aware (create draft correlation) := by
  have noted : ∀ (q : Proposal) (P : Policy), CatchesConflicts aware (do
      Service.note .info .ledger
        ("created proposal " ++ q.id ++ " for contract " ++ q.contractId ++
          s!" on {q.network.word} under policy " ++ P.id)
      return q : Service Proposal) := fun _ _ => FailsOnly.note_bind trivial
  have recovered : ∀ p : Proposal, CatchesConflicts aware (recoverInsert p correlation) := by
    intro p
    refine FailsOnly.read_bind rfl (fun found _ => ?_) fun _ _ h => h
    cases found with
    | none => exact FailsOnly.reject rfl
    | some q =>
      show FailsOnly aware _ _ (if _ then _ else _)
      split
      · exact FailsOnly.note_bind trivial
      · exact FailsOnly.reject rfl
  refine FailsOnly.policy_bind (fun P => ?_) rfl
  refine FailsOnly.ofExcept_bind (fun _ _ => ?_) fun _ _ => rfl
  refine FailsOnly.now_bind fun now _ => ?_
  refine FailsOnly.ofExcept_bind (fun expiresAt _ => ?_) fun _ _ => rfl
  refine FailsOnly.fresh_bind fun pid => FailsOnly.write_bind rfl fun r => ?_
  cases r with
  | some q => exact noted q P
  | none => exact (recovered _).bind fun q _ => noted q P

theorem get_fails : CatchesConflicts aware (get id correlation) := by
  refine FailsOnly.load_bind (fun p _ => FailsOnly.policy_bind (fun P => ?_) rfl) rfl
  exact FailsOnly.now_bind fun now _ => FailsOnly.timed fun _ _ => rfl

theorem load_fails : CatchesConflicts aware (load id correlation) := by
  rw [← Program.bind_done (load id correlation)]
  exact FailsOnly.load_bind (fun _ _ => trivial) rfl

theorem payload_fails : CatchesConflicts aware (payload id correlation) :=
  FailsOnly.load_bind (fun _ _ => trivial) rfl

theorem viewsAt_fails {now : Instant} {filter : Option Status} {known : List (Text × Policy)}
    {ps : List Proposal} : CatchesConflicts aware (viewsAt now filter correlation known ps) := by
  induction ps generalizing known with
  | nil => exact trivial
  | cons p rest ih =>
    have go : ∀ P : Policy, CatchesConflicts aware (do
        let view ← Service.timed (p.viewAt P now)
        let views ← viewsAt now filter correlation ((p.policyId, P) :: known) rest
        return if wanted filter view then view :: views else views) := fun P =>
      FailsOnly.ofExcept_bind (fun _ _ => ih.bind fun _ _ => trivial) fun _ _ => rfl
    rw [viewsAt]
    cases known.lookup p.policyId with
    | some P => exact go P
    | none => exact FailsOnly.policy_bind go rfl

theorem list_fails {filter : Option Status} {limit : Int} :
    CatchesConflicts aware (list filter limit correlation) := by
  refine FailsOnly.read_bind rfl (fun ps _ => ?_) fun _ _ h => h
  refine FailsOnly.now_bind fun now _ => viewsAt_fails.bind fun views _ => ?_
  exact FailsOnly.ofExcept_bind (fun _ _ => trivial) fun _ _ => rfl

end Ledger

/-! ## Policies, listings and sweeps -/

namespace Policies

theorem create_fails {draft : PolicyDraft} :
    CatchesConflicts aware (create draft correlation) := by
  have noted : ∀ P : Policy, CatchesConflicts aware (do
      Service.note .info .policies
        ("created policy " ++ P.id ++ s!" ({P.threshold}-of-{P.signers.length}, " ++
          s!"expiry={expiryText P.expirySeconds})")
      return P : Service Policy) := fun _ => FailsOnly.note_bind trivial
  have recovered : ∀ P : Policy, CatchesConflicts aware (recoverInsert P correlation) := by
    intro P
    refine FailsOnly.read_bind rfl (fun found _ => ?_) fun _ _ h => h
    cases found with
    | none => exact FailsOnly.reject rfl
    | some Q =>
      show FailsOnly aware _ _ (if _ then _ else _)
      split
      · exact FailsOnly.note_bind trivial
      · exact FailsOnly.reject rfl
  refine FailsOnly.ofExcept_bind (fun _ _ => ?_) fun _ _ => rfl
  refine FailsOnly.fresh_bind fun pid => FailsOnly.now_bind fun now _ => ?_
  refine FailsOnly.write_bind rfl fun r => ?_
  cases r with
  | some P => exact noted P
  | none => exact (recovered _).bind fun P _ => noted P

theorem list_fails {limit : Int} : CatchesConflicts aware (list limit correlation) := by
  rintro reply ⟨failed, -⟩
  cases reply with
  | ok Ps => exact trivial
  | error e => exact failed e rfl

theorem get_fails : CatchesConflicts aware (get id correlation) :=
  FailsOnly.read_bind rfl (fun found _ => by
    cases found with
    | none => exact FailsOnly.reject rfl
    | some P => exact trivial) fun _ _ h => h

end Policies

theorem Queries.overview_fails : CatchesConflicts aware (overview id correlation) :=
  Ledger.get_fails.bind fun _ _ => FailsOnly.policy_bind (fun _ => trivial) rfl

namespace Sweeper

/-- A busy record is skipped, and any other failure is the one of the expiry. -/
theorem close_fails (hp : p.Windowed aware) : CatchesConflicts aware (close n p) := by
  refine (Ledger.expire_fails hp).attempt.bind fun result failed => ?_
  cases result with
  | ok q => exact trivial
  | error e =>
    show FailsOnly aware _ _ (if _ then _ else _)
    split
    · exact FailsOnly.note_bind trivial
    · exact Failure.isConflict_of_isInternal (failed e rfl)

theorem closeAll_fails {now : Instant} {closed : Nat} {ps : List Proposal}
    (hps : ∀ p ∈ ps, p.Windowed aware) : CatchesConflicts aware (closeAll n now closed ps) := by
  induction ps generalizing closed with
  | nil => exact trivial
  | cons p rest ih =>
    have go : ∀ done : Bool, CatchesConflicts aware
        (closeAll n now (if done then closed + 1 else closed) rest) :=
      fun _ => ih fun q hq => hps q (List.mem_cons_of_mem p hq)
    rw [closeAll]
    refine FailsOnly.ofExcept_bind (fun expired _ => ?_) fun _ _ => rfl
    cases expired with
    | true => exact (close_fails (hps p List.mem_cons_self)).bind fun done _ => go done
    | false => exact go false

theorem sweep_fails : CatchesConflicts aware (sweep n) := by
  refine FailsOnly.now_bind fun now _ => FailsOnly.read_bind rfl (fun ps hps => ?_) fun _ _ h => h
  refine (closeAll_fails (hps ps rfl)).bind fun closed _ => ?_
  by_cases some_closed : closed ≠ 0
  · rw [if_pos some_closed]
    exact FailsOnly.note_bind trivial
  · rw [if_neg some_closed]
    exact trivial

theorem round_fails : CatchesConflicts aware (round n) := by
  refine sweep_fails.attempt.bind fun result failed => ?_
  cases result with
  | ok closed => exact trivial
  | error e =>
    cases e with
    | unavailable detail status issues => exact fun _ _ => trivial
    | _ => exact failed _ rfl

/-- The loop of the sweeper does not end with a conflict. -/
theorem rounds_fails {attempts : Nat} {interval : Number} :
    CatchesConflicts aware (rounds attempts interval n) := by
  induction n with
  | zero => exact trivial
  | succ n ih => exact round_fails.bind fun _ _ _ _ => ih

end Sweeper

/-! ## Executions -/

namespace Executions

theorem checkExecutable_fails {P : Policy} (hp : p.Windowed aware) :
    FailsPlainly aware (checkExecutable n P p correlation) := by
  unfold checkExecutable
  by_cases executed : p.status = .executed
  · rw [if_pos executed]
    exact FailsOnly.reject_bind rfl
  · rw [if_neg executed]
    refine FailsOnly.now_bind fun now ht => FailsOnly.ofExcept_bind (fun current _ => ?_)
      fun f he => absurd he (hp.evaluate_ne_error ht P f)
    by_cases late : current = .expired
    · rw [if_pos late]
      exact Ledger.expire_then_reject_fails hp
    · rw [if_neg late]
      by_cases short : current ≠ .approved
      · rw [if_pos short]
        exact FailsOnly.reject_bind rfl
      · rw [if_neg short]
        exact FailsOnly.guard fun _ => rfl

theorem Claim.within_fails {g : Claim} (hp : p.Windowed aware) :
    FailsPlainly aware (g.within n p) := by
  induction n generalizing p with
  | zero => exact FailsOnly.reject rfl
  | succ n ih =>
    rw [Claim.within]
    refine (checkExecutable_fails hp).bind fun _ _ => FailsOnly.now_bind fun now _ => ?_
    refine FailsOnly.write_bind rfl fun r => ?_
    cases r with
    | some stored => exact trivial
    | none =>
      refine FailsOnly.load_bind (fun q hq => ?_) rfl
      cases q.isClaimedBy g.execution with
      | true => exact trivial
      | false => exact FailsOnly.note_bind (ih hq)

theorem claim_fails {e : Text} : FailsPlainly aware (claim n id e correlation) :=
  FailsOnly.load_bind
    (fun _ hp => FailsOnly.policy_bind (fun _ => Claim.within_fails hp) rfl) rfl

theorem deploy_fails {e : Text} {limit : Number} :
    FailsPlainly aware (deploy p e limit correlation) := by
  have finish : ∀ landing, FailsPlainly aware (do
      noteLanding p.id limit landing
      let now ← Service.now
      return finished e limit landing now) := by
    intro landing
    have stamp : FailsPlainly aware (do
        let now ← Service.now
        return finished e limit landing now) := FailsOnly.now_bind fun _ _ => trivial
    cases landing with
    | reported r => exact stamp
    | raised label message => exact FailsOnly.note_bind stamp
    | timedOut => exact FailsOnly.note_bind stamp
  unfold deploy callDeployer
  cases limit.atMostZero with
  | true => exact finish .timedOut
  | false => exact fun landing _ => finish landing

theorem recordWithin_fails {x : Execution} :
    FailsPlainly aware (recordWithin id x correlation n p) := by
  induction n generalizing p with
  | zero => exact FailsOnly.reject rfl
  | succ n ih =>
    rw [recordWithin]
    refine FailsOnly.write_bind rfl fun r => ?_
    cases r with
    | some stored => exact FailsOnly.note_bind trivial
    | none => exact FailsOnly.load_bind (fun _ _ => ih) rfl

theorem execute_fails {rules : ExecutionRules} {requested : Option Number} :
    FailsPlainly aware (execute rules id requested correlation) := by
  refine FailsOnly.fresh_bind fun e => claim_fails.bind fun p _ => FailsOnly.note_bind ?_
  refine deploy_fails.bind fun x _ => recordWithin_fails.bind fun stored _ => ?_
  cases x.outcome.isFailure with
  | true => exact FailsOnly.reject_bind rfl
  | false => exact trivial

end Executions

/-! ## Every call -/

/-- How a call may fail at all: to sign and to execute, also not for times that cannot be
compared. -/
def Call.FailsWith : Call → Failure → Prop
  | sign .., e | execute .., e => e.isInternal = false
  | _, e => e.isConflict = false

theorem Call.program_fails (rules : ExecutionRules) (call : Call) :
    FailsOnly aware call.FailsWith (fun _ => True) (call.program rules) := by
  cases call with
  | createPolicy draft correlation => exact Policies.create_fails
  | createProposal draft correlation => exact Ledger.create_fails
  | sign id request correlation => exact Ledger.sign_fails
  | execute id requested correlation => exact Executions.execute_fails
  | expire p correlation => exact Ledger.expireWithin_fails (fun _ => rfl) fun _ _ _ _ => rfl
  | sweep => exact Sweeper.sweep_fails
  | policy id correlation => exact Policies.get_fails
  | policies limit correlation => exact Policies.list_fails
  | proposal id correlation => exact Ledger.get_fails
  | proposals filter limit correlation => exact Ledger.list_fails
  | payload id correlation => exact Ledger.payload_fails
  | overview id correlation => exact Queries.overview_fails

end QuorumGate
