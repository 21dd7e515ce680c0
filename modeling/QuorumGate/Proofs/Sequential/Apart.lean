import QuorumGate.Proofs.Sequential.Sweeps
import QuorumGate.Proofs.Sequential.Twins

/-!
# Calls about different proposals

Two calls that sign, execute or close proposals, each its own, can be made in either order. Each of
them comes to the same, and the store that they leave is the same, but for the identifiers that
they have been given.
-/

namespace QuorumGate

variable {ρ : Text → Text → Prop} {α β : Type} {id correlation : Text} {o o' p p' : Proposal}
  {P : Policy} {n : Nat}

/-! ## The calls, made twice -/

namespace Ledger

theorem expireWithin_twin (like : p.Like ρ p') (own : p.id = id) (stored : o.Like ρ o')
    (named : o.id = id) :
    Twin ρ id (fun _ _ => Proposal.Like ρ) o o' (expireWithin id correlation n p)
      (expireWithin id correlation n p') := by
  induction n generalizing p p' with
  | zero => exact .reject
  | succ n ih =>
    rw [expireWithin, expireWithin, like.status_eq]
    by_cases closed : p.status.isTerminal = true
    · rw [if_pos closed, if_pos closed]
      exact .done like
    · rw [if_neg closed, if_neg closed]
      refine Twin.now_bind fun t => ?_
      rw [like.isExpired_eq]
      refine Twin.ofExcept_bind fun expired _ => ?_
      cases expired with
      | false => exact .done like
      | true =>
        refine Twin.update_bind own (like.withStatus .expired) like.version_eq (fun _ => ?_)
          fun _ => Twin.load_bind (ih stored named)
        exact Twin.note_bind (.done ((like.withStatus .expired).committed p.version))

/-- Whatever comes of an expiry, the rejection after it ends the call. -/
theorem expire_then_reject_twin {ok : Proposal → Proposal → α → α → Prop} {r : Rejection}
    {k k' : β → Service α} (stored : o.Like ρ o') (named : o.id = id) :
    Twin ρ id ok o o'
      (do
        let _ ← expire n o correlation
        let x ← (Service.reject r : Service β)
        k x)
      (do
        let _ ← expire n o' correlation
        let x ← (Service.reject r : Service β)
        k' x) := by
  rw [expire, expire, stored.id_eq, named]
  exact (expireWithin_twin stored named stored named).bind fun _ _ _ _ _ => .reject_bind

namespace Signing

variable {g : Signing}

theorem checkOpen_twin (stored : o.Like ρ o') (named : o.id = id) :
    Twin ρ id (fun u u' _ _ => u = o ∧ u' = o') o o' (g.checkOpen o) (g.checkOpen o') := by
  rw [checkOpen, checkOpen, stored.status_eq, stored.id_eq, stored.hasSigned_eq]
  cases o.status.isTerminal with
  | true => exact .reject_bind
  | false =>
    refine Twin.now_bind fun t => ?_
    rw [stored.isExpired_eq]
    refine Twin.ofExcept_bind fun expired _ => ?_
    cases expired with
    | true => exact expire_then_reject_twin stored named
    | false =>
      cases g.policy.signers.contains g.signer with
      | false => exact .reject_bind
      | true =>
        cases o.hasSigned g.signer with
        | true => exact .reject
        | false => exact .done ⟨rfl, rfl⟩

theorem checkArtifact_twin (stored : o.Like ρ o') :
    Twin ρ id (fun u u' _ _ => u = o ∧ u' = o') o o' (g.checkArtifact o) (g.checkArtifact o') := by
  rw [checkArtifact, checkArtifact, stored.payload_eq]
  cases g.data with
  | none => exact .done ⟨rfl, rfl⟩
  | some data =>
    refine .verify fun verdict => ?_
    cases verdict with
    | error e => exact .fail e
    | ok verified =>
      cases verified with
      | true => exact .done ⟨rfl, rfl⟩
      | false => exact Twin.note_bind .reject

theorem signed_twin {s s' : Signature} {t : Instant} (hs : s.Like ρ s') (stored : o.Like ρ o')
    (named : o.id = id) :
    Twin ρ id (fun u u' q q' => (u = o ∧ u' = o') ∧ q.id = id ∧ q.Like ρ q') o o'
      (g.signed o s t) (g.signed o' s' t) := by
  have like : (o.sign s).Like ρ (o'.sign s') := stored.sign hs
  rw [signed, signed, like.evaluate_eq, stored.status_eq]
  refine Twin.ofExcept_bind fun next _ => ?_
  by_cases late : next = .expired
  · rw [if_pos late, if_pos late]
    exact expire_then_reject_twin stored named
  · rw [if_neg late, if_neg late]
    exact Twin.ofExcept_bind fun _ _ => .done ⟨⟨rfl, rfl⟩, named, like.withStatus next⟩

/-- As the copy that is signed is the one that is stored, the first attempt succeeds. -/
theorem recordWithin_twin (stored : o.Like ρ o') (named : o.id = id) :
    Twin ρ id (fun _ _ => Proposal.Like ρ) o o' (g.recordWithin n o) (g.recordWithin n o') := by
  cases n with
  | zero => exact .reject
  | succ n =>
    rw [recordWithin, recordWithin]
    refine Twin.now_bind fun t => Twin.fresh_bind fun x x' related => ?_
    refine (signed_twin (.mk related) stored named).bind ?_
    rintro _ _ q q' ⟨⟨rfl, rfl⟩, own, like⟩
    refine Twin.update_current_bind own like stored.version_eq ?_
    exact Twin.note_bind (.done (like.committed _))

end Signing

theorem sign_twin {request : SigningRequest} (stored : o.Like ρ o') (named : o.id = id) :
    Twin ρ id (fun _ _ => Proposal.Like ρ) o o' (sign n id request correlation)
      (sign n id request correlation) := by
  refine Twin.load_bind ?_
  rw [stored.policyId_eq]
  refine Twin.policy_bind fun P => (Signing.checkOpen_twin stored named).bind ?_
  rintro _ _ _ _ ⟨rfl, rfl⟩
  refine (Signing.checkArtifact_twin stored).bind ?_
  rintro _ _ _ _ ⟨rfl, rfl⟩
  exact Signing.recordWithin_twin stored named

end Ledger

namespace Executions

theorem checkExecutable_twin (stored : o.Like ρ o') (named : o.id = id) :
    Twin ρ id (fun u u' _ _ => u = o ∧ u' = o') o o' (checkExecutable n P o correlation)
      (checkExecutable n P o' correlation) := by
  rw [checkExecutable, checkExecutable, stored.status_eq, stored.id_eq, stored.executedAt_eq,
    stored.expiresAt_eq, stored.length_eq]
  by_cases executed : o.status = .executed
  · rw [if_pos executed, if_pos executed]
    exact .reject_bind
  · rw [if_neg executed, if_neg executed]
    refine Twin.now_bind fun t => ?_
    rw [stored.evaluate_eq]
    refine Twin.ofExcept_bind fun current _ => ?_
    by_cases late : current = .expired
    · rw [if_pos late, if_pos late]
      exact Ledger.expire_then_reject_twin stored named
    · rw [if_neg late, if_neg late]
      by_cases approved : current ≠ .approved
      · rw [if_pos approved]
        exact .reject_bind
      · rw [if_neg approved]
        cases current.checkMove .executed o.id with
        | error r => exact .fail _
        | ok _ => exact .done ⟨rfl, rfl⟩

/-- As the copy that is claimed is the one that is stored, the first attempt succeeds. -/
theorem Claim.within_twin {x x' : Text} (stored : o.Like ρ o') (named : o.id = id)
    (related : ρ x x') :
    Twin ρ id (fun u u' q q' => (q = u ∧ q' = u') ∧ u.id = id ∧ u.Like ρ u') o o'
      (Claim.within ⟨id, x, P, n, correlation⟩ n o)
      (Claim.within ⟨id, x', P, n, correlation⟩ n o') := by
  cases n with
  | zero => exact .reject
  | succ n =>
    rw [within, within]
    refine (checkExecutable_twin stored named).bind ?_
    rintro _ _ _ _ ⟨rfl, rfl⟩
    refine Twin.now_bind fun t => ?_
    have like := stored.claim related t
    exact Twin.update_current_bind named like stored.version_eq
      (.done ⟨⟨rfl, rfl⟩, named, like.committed _⟩)

theorem claim_twin {x x' : Text} (stored : o.Like ρ o') (named : o.id = id) (related : ρ x x') :
    Twin ρ id (fun u u' q q' => (q = u ∧ q' = u') ∧ u.id = id ∧ u.Like ρ u') o o'
      (claim n id x correlation) (claim n id x' correlation) := by
  refine Twin.load_bind ?_
  rw [stored.policyId_eq]
  exact Twin.policy_bind fun P => Claim.within_twin stored named related

theorem like_finished {x x' : Text} {limit : Number} {t : Instant} (related : ρ x x')
    (landing : Landing) :
    (finished x limit landing t).Like ρ (finished x' limit landing t) := by
  cases landing <;> exact .mk related

theorem deploy_twin {x x' : Text} {limit : Number} (stored : o.Like ρ o') (related : ρ x x') :
    Twin ρ id (fun u u' e e' => (u = o ∧ u' = o') ∧ e.Like ρ e') o o'
      (deploy o x limit correlation) (deploy o' x' limit correlation) := by
  let ok : Proposal → Proposal → Execution → Execution → Prop :=
    fun u u' e e' => (u = o ∧ u' = o') ∧ e.Like ρ e'
  have told : ∀ landing, Twin ρ id ok o o'
      (Service.now >>= fun now => pure (finished x limit landing now))
      (Service.now >>= fun now => pure (finished x' limit landing now)) :=
    fun landing => Twin.now_bind fun t => .done ⟨⟨rfl, rfl⟩, like_finished related landing⟩
  have finish : ∀ landing, Twin ρ id ok o o'
      (noteLanding o.id limit landing >>= fun _ => Service.now >>= fun now =>
        pure (finished x limit landing now))
      (noteLanding o.id limit landing >>= fun _ => Service.now >>= fun now =>
        pure (finished x' limit landing now)) := by
    intro landing
    cases landing with
    | reported r => exact told (.reported r)
    | raised label message => exact Twin.note_bind (told (.raised label message))
    | timedOut => exact Twin.note_bind (told .timedOut)
  rw [deploy, deploy, stored.order_eq, stored.id_eq, callDeployer]
  cases limit.atMostZero with
  | true => exact finish .timedOut
  | false => exact .deploy finish

theorem recordWithin_twin {e e' : Execution} (stored : o.Like ρ o') (named : o.id = id)
    (he : e.Like ρ e') :
    Twin ρ id (fun _ _ => Proposal.Like ρ) o o' (recordWithin id e correlation n o)
      (recordWithin id e' correlation n o') := by
  cases n with
  | zero => exact .reject
  | succ n =>
    have like := stored.withExecution he
    exact Twin.update_current_bind named like stored.version_eq
      (Twin.note_bind (.done (like.committed _)))

theorem execute_twin {rules : ExecutionRules} {requested : Option Number} (stored : o.Like ρ o')
    (named : o.id = id) :
    Twin ρ id (fun _ _ r r' => r' = r) o o' (execute rules id requested correlation)
      (execute rules id requested correlation) := by
  refine Twin.fresh_bind fun x x' related => (claim_twin stored named related).bind ?_
  rintro u u' _ _ ⟨⟨rfl, rfl⟩, own, like⟩
  refine Twin.note_bind ((deploy_twin like related).bind ?_)
  rintro _ _ e e' ⟨⟨rfl, rfl⟩, he⟩
  rw [like.id_eq, own]
  refine (recordWithin_twin like own he).bind fun _ _ q q' hq => ?_
  cases he
  cases e.outcome.isFailure with
  | true => exact .reject_bind
  | false =>
    refine .done ?_
    rw [receipt, receipt, hq.id_eq, hq.status_eq, hq.executedAt_eq]

end Executions

/-! ## Two changes -/

namespace Store

variable {s t : Store} {c c' : Option Proposal} {q r : Proposal} {other : Text}

theorem replace_comm (apart : q.id ≠ r.id) (ps : List Proposal) :
    replace r (replace q ps) = replace q (replace r ps) := by
  simp only [replace, List.map_map]
  refine List.map_congr_left fun p _ => ?_
  by_cases hq : p.id = q.id <;> by_cases hr : p.id = r.id <;> simp_all [Ne.symm]

theorem amend_comm (apart : ∀ q r, c = some q → c' = some r → q.id ≠ r.id) :
    (s.amend c).amend c' = (s.amend c').amend c := by
  cases c with
  | none => rfl
  | some q =>
    cases c' with
    | none => rfl
    | some r => exact congrArg (Store.mk s.policies) (replace_comm (apart q r rfl rfl) s.proposals)

theorem proposal?_amend_other (stored : s.proposal? id = some p)
    (own : ∀ q, c = some q → q.id = id) (apart : id ≠ other) :
    (s.amend c).proposal? other = s.proposal? other := by
  cases c with
  | none => rfl
  | some q =>
    obtain rfl := own q rfl
    exact (proposal?_put q stored other).trans (if_neg apart)

theorem Like.amend (h : s.Like ρ t) (likes : Option.Rel (Proposal.Like ρ) c c') :
    (s.amend c).Like ρ (t.amend c') := by
  cases likes with
  | none => exact h
  | some like =>
    refine ⟨h.policies, ?_⟩
    show List.Forall₂ (Proposal.Like ρ) (replace _ s.proposals) (replace _ t.proposals)
    rw [replace, replace, List.forall₂_map_left_iff, List.forall₂_map_right_iff]
    refine h.proposals.imp fun p p' hp => ?_
    rw [hp.id_eq, like.id_eq]
    split
    · exact like
    · exact hp

end Store

/-! ## Either order -/

/-- Two identifiers that are the same, or that one of two calls was given at the same point in two
runs. -/
inductive Renamed (a a' b b' : Nat → Text) : Text → Text → Prop where
  | same (x : Text) : Renamed a a' b b' x x
  | first (i : Nat) : Renamed a a' b b' (a i) (a' i)
  | second (i : Nat) : Renamed a a' b b' (b i) (b' i)

namespace Call

variable {a a' : Nat → Text} {f : Call} {s t : Store}

/-- A call that signs, executes or closes the proposal with an identifier. -/
def IsFor (id : Text) : Call → Prop
  | sign x _ _ | execute x _ _ => x = id
  | expire p _ => p.id = id
  | _ => False

/-- Like proposals, or the same result. -/
def LikeResult (ρ : Text → Text → Prop) : (call : Call) → call.Result → call.Result → Prop
  | sign .. | expire .. => Proposal.Like ρ
  | _ => fun r r' => r' = r

/-- What a call comes to over a store, and what it leaves. -/
def outcome (env : Surroundings) (rules : ExecutionRules) (clock : Nat → Instant)
    (ids : Nat → Text) (call : Call) (s : Store) : Except Failure call.Result × Desk :=
  Occasion.run env ⟨call, clock, ids⟩ (call.program rules) ⟨s, 0, 0, []⟩

theorem LikeResult.eq (same : ∀ x y, ρ x y → y = x) (r r' : f.Result) (h : f.LikeResult ρ r r') :
    r' = r := by
  cases f with
  | sign | expire => exact Proposal.Like.eq same h
  | _ => exact h

theorem program_twin (rules : ExecutionRules) (hf : f.IsFor id) (reflexive : ∀ x, ρ x x)
    (named : o.id = id) :
    Twin ρ id (fun _ _ => f.LikeResult ρ) o o (f.program rules) (f.program rules) := by
  have stored : o.Like ρ o := .refl reflexive o
  cases f with
  | sign x request correlation =>
    subst hf
    exact Ledger.sign_twin stored named
  | execute x requested correlation =>
    subst hf
    exact Executions.execute_twin stored named
  | expire p correlation =>
    subst hf
    exact Ledger.expireWithin_twin (.refl reflexive p) rfl stored named
  | _ => exact hf.elim

/-- A call is made over two stores that hold the same policies and the same record for it. -/
theorem outcome_like (env : Surroundings) (rules : ExecutionRules) (clock : Nat → Instant)
    (hf : f.IsFor id) (reflexive : ∀ x, ρ x x) (ids : ∀ i, ρ (a i) (a' i))
    (policies : t.policies = s.policies) (here : s.proposal? id = some o)
    (there : t.proposal? id = some o) :
    RunsLike ρ id (f.LikeResult ρ) s t (f.outcome env rules clock a s)
      (f.outcome env rules clock a' t) := by
  have beside : Desk.Beside ⟨s, 0, 0, []⟩ id o o ⟨t, 0, 0, []⟩ :=
    ⟨policies, here, there, rfl, rfl, rfl⟩
  have same_clock : (⟨f, clock, a'⟩ : Occasion).clock = (⟨f, clock, a⟩ : Occasion).clock := rfl
  exact (program_twin rules hf reflexive (Store.id_eq_of_proposal? here)).run env same_clock ids
    (.refl reflexive o) beside

/-- Two calls that sign, execute or close two different proposals are made in either order. Each of
them ends alike and has the same deployed, and the stores that are left are alike, in the same
order: they differ by no more than the identifiers that the calls were given in the two runs. Where
these are the same, nothing differs at all. -/
theorem commute {g : Call} {i j : Text} {p q : Proposal} (env : Surroundings)
    (rules : ExecutionRules) (clock clock' : Nat → Instant) (a a' b b' : Nat → Text)
    (hf : f.IsFor i) (hg : g.IsFor j) (apart : i ≠ j) (hp : s.proposal? i = some p)
    (hq : s.proposal? j = some q) :
    let fThen := f.outcome env rules clock a s
    let thenG := g.outcome env rules clock' b fThen.2.store
    let gThen := g.outcome env rules clock' b' s
    let thenF := f.outcome env rules clock a' gThen.2.store
    (EndsLike (f.LikeResult (Renamed a a' b b')) fThen.1 thenF.1 ∧
        thenF.2.orders = fThen.2.orders) ∧
      (EndsLike (g.LikeResult (Renamed a a' b b')) thenG.1 gThen.1 ∧
        gThen.2.orders = thenG.2.orders) ∧
      thenG.2.store.Like (Renamed a a' b b') thenF.2.store ∧
      (a' = a → b' = b →
        thenF.1 = fThen.1 ∧ gThen.1 = thenG.1 ∧ thenF.2.store = thenG.2.store) := by
  intro fThen thenG gThen thenF
  have reflexive : ∀ x, Renamed a a' b b' x x := .same
  -- Over what the first call leaves, the second one finds its own record and the policies as
  -- before.
  obtain ⟨c₀, -, -, own₀, left₀, -⟩ :=
    (outcome_like env rules clock hf reflexive (fun i => reflexive (a i)) rfl hp hp).change
  have hq₁ : fThen.2.store.proposal? j = some q := by
    rw [left₀, Store.proposal?_amend_other hp own₀ apart, hq]
  have policies : s.policies = fThen.2.store.policies := by rw [left₀, Store.policies_amend]
  have gLike := outcome_like env rules clock' hg reflexive (fun k => .second k) policies hq₁ hq
  obtain ⟨e, e', likesG, ownG, leftG, leftG'⟩ := gLike.change
  have ownG' := Proposal.Like.id_eq_of_rel likesG ownG
  have hp₁ : gThen.2.store.proposal? i = some p := by
    rw [leftG', Store.proposal?_amend_other hq ownG' (Ne.symm apart), hp]
  have policies' : gThen.2.store.policies = s.policies := by rw [leftG', Store.policies_amend]
  have fLike := outcome_like env rules clock hf reflexive (fun k => .first k) policies' hp hp₁
  obtain ⟨c, c', likesF, ownF, leftF, leftF'⟩ := fLike.change
  have ownF' := Proposal.Like.id_eq_of_rel likesF ownF
  have stores : thenG.2.store.Like (Renamed a a' b b') thenF.2.store := by
    rw [leftG, leftF, leftF', leftG', Store.amend_comm fun x y hx hy same =>
      apart ((ownF' y hy).symm.trans (same.symm.trans (ownG' x hx)))]
    exact ((Store.Like.refl reflexive s).amend likesF).amend likesG
  refine ⟨⟨fLike.ends, fLike.orders⟩, ⟨gLike.ends, gLike.orders⟩, stores, ?_⟩
  rintro rfl rfl
  have same : ∀ x y, Renamed a' a' b' b' x y → y = x := by
    rintro _ _ (_ | _ | _) <;> rfl
  exact ⟨fLike.ends.eq (LikeResult.eq same), gLike.ends.eq (LikeResult.eq same), stores.eq same⟩

end Call

namespace OneOfTwo

/-- An open proposal, and after it one that a signature has approved. -/
def openAndApproved : Store where
  policies := [policy.toPolicy (letter 'P') start]
  proposals := [draft.normalized.toProposal (letter 'Q') start none,
    { draft.normalized.toProposal (letter 'R') start none with
      signatures := [⟨letter 'S', letter 'a', none, start⟩]
      status := .approved
      version := 2 }]

/-- The open one is signed and the approved one is executed. It does not matter which comes first,
but for the identifiers, which are others then. -/
theorem either_first :
    let sign := Call.sign (letter 'Q') ⟨letter 'b', none⟩ (letter 'r')
    let execute := Call.execute (letter 'R') none (letter 'r')
    let signed := sign.outcome obliging rules (fun _ => start) (fun _ => letter 'T') openAndApproved
    let both := execute.outcome obliging rules (fun _ => start) (fun _ => letter 'E') signed.2.store
    let executed :=
      execute.outcome obliging rules (fun _ => start) (fun _ => letter 'F') openAndApproved
    let both' := sign.outcome obliging rules (fun _ => start) (fun _ => letter 'U') executed.2.store
    let ρ := Renamed (fun _ => letter 'T') (fun _ => letter 'U') (fun _ => letter 'E')
      (fun _ => letter 'F')
    (signed.1.isOk = true ∧ both.2.orders.length = 1 ∧
        both.2.store.proposals.map (·.status) = [.approved, .executed] ∧
        both'.2.store ≠ both.2.store) ∧
      EndsLike (sign.LikeResult ρ) signed.1 both'.1 ∧
      EndsLike (execute.LikeResult ρ) both.1 executed.1 ∧
      both.2.store.Like ρ both'.2.store := by
  obtain ⟨p, hp⟩ : ∃ p, openAndApproved.proposal? (letter 'Q') = some p :=
    Option.isSome_iff_exists.1 (by decide +kernel)
  obtain ⟨q, hq⟩ : ∃ q, openAndApproved.proposal? (letter 'R') = some q :=
    Option.isSome_iff_exists.1 (by decide +kernel)
  have commuted := Call.commute (f := .sign (letter 'Q') ⟨letter 'b', none⟩ (letter 'r'))
    (g := .execute (letter 'R') none (letter 'r')) obliging rules (fun _ => start) (fun _ => start)
    (fun _ => letter 'T') (fun _ => letter 'U') (fun _ => letter 'E') (fun _ => letter 'F') rfl rfl
    (by decide) hp hq
  dsimp only at commuted ⊢
  obtain ⟨⟨forSign, -⟩, ⟨forExecute, -⟩, stores, -⟩ := commuted
  exact ⟨by decide +kernel, forSign, forExecute, stores⟩

end OneOfTwo

end QuorumGate
