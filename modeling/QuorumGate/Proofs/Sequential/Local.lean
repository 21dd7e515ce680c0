import QuorumGate.Proofs.Concurrency.Payloads
import QuorumGate.Proofs.Sequential.Session

/-!
# Calls about one proposal

A call that signs, executes or shows a proposal asks the store for this one proposal and for
policies. What it puts in the place of the proposal can be shown as well as what it has found there.
A call about policies asks for no proposal at all.
-/

namespace QuorumGate

/-- A program asks only for what is allowed, and its result is as it should be, if its requests are
answered as it can expect. -/
def Given (allowed : Effect → Prop) (expected : (r : Effect) → r.Reply → Prop) (ok : α → Prop) :
    Service α → Prop
  | .done a => ok a
  | .fail _ => True
  | .ask r next =>
    allowed r ∧ ∀ reply, expected r reply → Given allowed expected ok (next reply)

variable {α β : Type} {allowed : Effect → Prop} {expected : (r : Effect) → r.Reply → Prop}
  {ok ok' : α → Prop} {ok'' : β → Prop} {program : Service α}

namespace Given

theorem mono (h : Given allowed expected ok program) (hok : ∀ a, ok a → ok' a) :
    Given allowed expected ok' program := by
  induction program with
  | done a => exact hok a h
  | fail e => trivial
  | ask r next ih => exact ⟨h.1, fun reply hr => ih reply (h.2 reply hr)⟩

theorem bind {k : α → Service β} (h : Given allowed expected ok program)
    (hk : ∀ a, ok a → Given allowed expected ok'' (k a)) :
    Given allowed expected ok'' (program >>= k) := by
  induction program with
  | done a => exact hk a h
  | fail e => trivial
  | ask r next ih => exact ⟨h.1, fun reply hr => ih reply (h.2 reply hr)⟩

theorem reject {r : Rejection} : Given allowed expected ok (Service.reject r) := trivial

theorem reject_bind {r : Rejection} {k : β → Service α} :
    Given allowed expected ok (Service.reject r >>= k) := trivial

theorem ofExcept_bind {ε : Type} {x : Except ε α} {f : ε → Failure} {k : α → Service β}
    (hk : ∀ a, x = .ok a → Given allowed expected ok'' (k a)) :
    Given allowed expected ok'' ((Program.ofExcept (x.mapError f) : Service α) >>= k) := by
  cases x with
  | ok a => exact hk a rfl
  | error e => trivial

end Given

/-- A policy that asks for one signature at least, and under which no window is closed at once. -/
structure Policy.IsSound (P : Policy) : Prop where
  threshold : 1 ≤ P.threshold
  window : ∀ n, P.expirySeconds = some n → 0 < n

theorem PolicyDraft.isSound_toPolicy {draft : PolicyDraft} (h : draft.objection? = none) (id : Text)
    (now : Instant) : (draft.toPolicy id now).IsSound :=
  have acceptable := objection?_eq_none_iff.1 h
  ⟨acceptable.threshold.1, fun n hn => (acceptable.expiry n hn).1⟩

/-- A version of the proposal that a store holds under an identifier, which can be shown under its
policy. -/
structure VersionOf (b : Store) (now : Instant) (id : Text) (p : Proposal) (P : Policy) : Prop where
  shown : Presentable b now p P
  origin : ∃ first, b.proposal? id = some first ∧ p.origin = first.origin

namespace Effect

/-- To put a policy on the shelf, or to look for one, or for the proposal, or to put another version
of it in its place. -/
def IsAbout (b : Store) (now : Instant) (subject : Option Text) : Effect → Prop
  | store (.insertPolicy P) _ => P.IsSound
  | store (.getProposal x) _ => subject = some x
  | store (.updateProposal q _) _ => subject = some q.id ∧ ∃ P, VersionOf b now q.id q P
  | store (.insertProposal _) _ | store (.listProposals _) _ => False
  | _ => True

/-- Policies are found where they were, and a proposal in one of its versions. -/
def Expects (b : Store) (now : Instant) : (r : Effect) → r.Reply → Prop
  | .store (.getProposal x) _, reply => ∀ p, reply = .ok (some p) → ∃ P, VersionOf b now x p P
  | .store (.getPolicy x) _, reply => ∀ P, b.policy? x = some P → reply = .ok (some P)
  | .store (.updateProposal q expected) _, reply =>
    ∀ p, reply = .ok p → p = Store.committed q expected
  | _, _ => True

end Effect

/-- A program is about one proposal, or about none. -/
abbrev About (b : Store) (now : Instant) (subject : Option Text) (ok : α → Prop) :
    Service α → Prop :=
  Given (Effect.IsAbout b now subject) (Effect.Expects b now) ok

variable {b : Store} {now : Instant} {subject : Option Text} {id correlation : Text} {n : Nat}
  {p q : Proposal} {P : Policy}

namespace VersionOf

theorem id_eq (h : VersionOf b now id p P) : p.id = id := by
  obtain ⟨first, found, same⟩ := h.origin
  exact (Proposal.origin_eq_iff.1 same).1.trans (Store.id_eq_of_proposal? found)

/-- All versions belong to one policy. -/
theorem policy_unique {Q : Policy} (h : VersionOf b now id p P) (hq : VersionOf b now id q Q) :
    Q = P := by
  obtain ⟨first, found, hfirst⟩ := h.origin
  obtain ⟨first', found', hfirst'⟩ := hq.origin
  obtain rfl := Option.some.inj (found.symm.trans found')
  have same := Proposal.policyId_eq_of_origin (hfirst'.trans hfirst.symm)
  exact Option.some.inj (hq.shown.policy.symm.trans (same ▸ h.shown.policy))

/-- What is written later agrees with what was written first, and its stage says what its signatures
say unless it is terminal. -/
theorem next (h : VersionOf b now id p P) (ho : q.origin = p.origin)
    (stage : q.status.isTerminal = false → q.status = q.quorumStatus P) :
    VersionOf b now id q P := by
  obtain ⟨-, policyId, -, -, -, -, -, -, createdAt, expiresAt⟩ := Proposal.origin_eq_iff.1 ho
  obtain ⟨first, found, hfirst⟩ := h.origin
  refine ⟨⟨?_, stage, ?_, ?_⟩, first, found, ho.trans hfirst⟩
  · rw [policyId]
    exact h.shown.policy
  · rw [expiresAt]
    exact h.shown.window
  · rw [createdAt]
    exact h.shown.created

theorem terminal (h : VersionOf b now id p P) (ho : q.origin = p.origin)
    (hq : q.status.isTerminal = true) : VersionOf b now id q P :=
  h.next ho (by simp [hq])

theorem withExecution (h : VersionOf b now id p P) (e : Execution) :
    VersionOf b now id (p.withExecution e) P := h.next rfl h.shown.stage

theorem committed (h : VersionOf b now id p P) (expected : Int) :
    VersionOf b now id (Store.committed p expected) P := h.next rfl h.shown.stage

theorem signed {s : Signature} {t : Instant} {stage : Status} (h : VersionOf b now id p P)
    (he : (p.sign s).evaluate P t = .ok stage) :
    VersionOf b now id ((p.sign s).withStatus stage) P := by
  refine h.next rfl fun still_open => ?_
  have still_open : stage.isTerminal = false := still_open
  unfold Proposal.evaluate at he
  split at he
  · rename_i closed
    cases he
    rw [closed] at still_open
    cases still_open
  · cases hx : (p.sign s).isExpired t with
    | error e =>
      rw [hx] at he
      cases he
    | ok expired =>
      rw [hx] at he
      cases expired with
      | true =>
        cases he
        cases still_open
      | false =>
        cases he
        rfl

end VersionOf

namespace About

theorem now_bind {k : Instant → Service α}
    (hk : ∀ t, About b now subject ok (k t)) : About b now subject ok (Service.now >>= k) :=
  ⟨trivial, fun t _ => hk t⟩

theorem fresh_bind {kind : IdKind} {k : Text → Service α}
    (hk : ∀ x, About b now subject ok (k x)) : About b now subject ok (Service.fresh kind >>= k) :=
  ⟨trivial, fun x _ => hk x⟩

theorem note_bind {level : Level} {channel : Channel} {text : Text} {k : Unit → Service α}
    (hk : About b now subject ok (k ())) :
    About b now subject ok (Service.note level channel text >>= k) := ⟨trivial, fun _ _ => hk⟩

theorem load_bind {k : Proposal → Service α}
    (hk : ∀ p P, VersionOf b now id p P → About b now (some id) ok (k p)) :
    About b now (some id) ok (Ledger.load id correlation >>= k) := by
  refine ⟨rfl, fun reply found => ?_⟩
  cases reply with
  | error e => trivial
  | ok stored =>
    cases stored with
    | none => trivial
    | some p =>
      obtain ⟨P, hP⟩ := found p rfl
      exact hk p P hP

theorem policy_bind {x : Text} {k : Policy → Service α} (h : b.policy? x = some P)
    (hk : About b now subject ok (k P)) :
    About b now subject ok (Policies.get x correlation >>= k) := by
  refine ⟨trivial, fun reply found => ?_⟩
  obtain rfl : reply = .ok (some P) := found P h
  exact hk

theorem update_bind {k : Option Proposal → Service α} {expected : Int}
    (hq : VersionOf b now id q P)
    (made : About b now (some id) ok (k (some (Store.committed q expected))))
    (unmade : About b now (some id) ok (k none)) :
    About b now (some id) ok
      (Service.storeUnlessConflict (.updateProposal q expected) correlation >>= k) := by
  obtain rfl := hq.id_eq
  refine ⟨⟨rfl, P, hq⟩, fun reply written => ?_⟩
  cases reply with
  | ok p =>
    obtain rfl := written p rfl
    exact made
  | error e =>
    cases e with
    | conflict => exact unmade
    | _ => trivial

end About

/-! ## The calls -/

namespace Policies

theorem get_about : About b now subject (fun _ => True) (get id correlation) := by
  refine ⟨trivial, fun reply _ => ?_⟩
  cases reply with
  | error e => trivial
  | ok stored => cases stored <;> trivial

theorem list_about {limit : Int} :
    About b now subject (fun _ => True) (list limit correlation) := by
  refine ⟨trivial, fun reply _ => ?_⟩
  cases reply <;> trivial

theorem recoverInsert_about :
    About b now subject (fun _ => True) (recoverInsert P correlation) := by
  refine ⟨trivial, fun reply _ => ?_⟩
  cases reply with
  | error e => trivial
  | ok stored =>
    cases stored with
    | none => trivial
    | some Q =>
      show About b now subject _ (if Q.same P = true then _ else _)
      by_cases same : Q.same P = true
      · rw [if_pos same]
        exact About.note_bind trivial
      · rw [if_neg same]
        trivial

theorem create_about {draft : PolicyDraft} :
    About b now subject (fun _ => True) (create draft correlation) := by
  unfold create
  refine Given.ofExcept_bind fun _ hcheck => About.fresh_bind fun x => About.now_bind fun t => ?_
  have sound := PolicyDraft.isSound_toPolicy (PolicyDraft.objection?_of_check hcheck) x t
  refine ⟨sound, fun reply _ => ?_⟩
  cases reply with
  | ok Q => exact About.note_bind trivial
  | error e =>
    cases e with
    | conflict => exact recoverInsert_about.bind fun Q _ => About.note_bind trivial
    | _ => trivial

end Policies

namespace Ledger

theorem expireWithin_about (h : VersionOf b now id p P) :
    About b now (some id) (fun _ => True) (expireWithin id correlation n p) := by
  induction n generalizing p P with
  | zero => trivial
  | succ n ih =>
    rw [expireWithin]
    by_cases closed : p.status.isTerminal = true
    · rw [if_pos closed]
      trivial
    · rw [if_neg closed]
      refine About.now_bind fun t => Given.ofExcept_bind fun expired _ => ?_
      cases expired with
      | false => trivial
      | true =>
        refine About.update_bind (h.terminal rfl rfl) (About.note_bind trivial) ?_
        exact About.load_bind fun q Q hq => ih hq

/-- Whatever comes of an expiry, the rejection after it ends the call. -/
theorem expire_then_reject_about {k : β → Service α} {r : Rejection} (h : VersionOf b now id p P) :
    About b now (some id) ok
      (do
        let _ ← expire n p correlation
        let x ← (Service.reject r : Service β)
        k x) := by
  obtain rfl := h.id_eq
  exact (expireWithin_about h).bind fun _ _ => Given.reject_bind

namespace Signing

variable {g : Signing}

theorem checkOpen_about (h : VersionOf b now id p P) :
    About b now (some id) (fun _ => True) (g.checkOpen p) := by
  unfold checkOpen
  cases p.status.isTerminal with
  | true => exact Given.reject_bind
  | false =>
    refine About.now_bind fun t => Given.ofExcept_bind fun expired _ => ?_
    cases expired with
    | true => exact expire_then_reject_about h
    | false =>
      cases g.policy.signers.contains g.signer with
      | false => exact Given.reject_bind
      | true =>
        cases p.hasSigned g.signer with
        | true => exact Given.reject
        | false => trivial

theorem checkArtifact_about : About b now subject (fun _ => True) (g.checkArtifact p) := by
  unfold checkArtifact
  cases g.data with
  | none => trivial
  | some data =>
    refine ⟨trivial, fun reply _ => ?_⟩
    cases reply with
    | error e => trivial
    | ok verified =>
      cases verified with
      | true => trivial
      | false => exact About.note_bind Given.reject

theorem signed_about {s : Signature} {t : Instant} (h : VersionOf b now id p g.policy) :
    About b now (some id) (VersionOf b now id · g.policy) (g.signed p s t) := by
  unfold signed
  refine Given.ofExcept_bind fun next he => ?_
  by_cases late : next = .expired
  · rw [if_pos late]
    exact expire_then_reject_about h
  · rw [if_neg late]
    exact Given.ofExcept_bind fun _ _ => h.signed he

theorem recordWithin_about (hg : g.proposal = id) (h : VersionOf b now id p g.policy) :
    About b now (some id) (fun _ => True) (g.recordWithin n p) := by
  subst hg
  induction n generalizing p with
  | zero => trivial
  | succ n ih =>
    rw [recordWithin]
    refine About.now_bind fun t => About.fresh_bind fun x => ?_
    refine (signed_about h).bind fun q hq => ?_
    refine About.update_bind hq (About.note_bind trivial) (About.note_bind ?_)
    by_cases last : n = 0
    · rw [if_pos last]
      trivial
    · rw [if_neg last]
      refine About.load_bind fun r R hr => ?_
      obtain rfl := h.policy_unique hr
      cases r.signatures.any (Signature.same ⟨x, g.signer, g.data, t⟩) with
      | true => trivial
      | false => exact (checkOpen_about hr).bind fun _ _ => ih hr

end Signing

theorem sign_about {request : SigningRequest} :
    About b now (some id) (fun _ => True) (sign n id request correlation) := by
  refine About.load_bind fun p P hp => About.policy_bind hp.shown.policy ?_
  refine (Signing.checkOpen_about hp).bind fun _ _ => ?_
  exact Signing.checkArtifact_about.bind fun _ _ => Signing.recordWithin_about rfl hp

/-- What is shown belongs to a policy that is there. -/
theorem get_about :
    About b now (some id) (fun q => ∃ P, b.policy? q.policyId = some P) (get id correlation) := by
  refine About.load_bind fun p P hp => About.policy_bind hp.shown.policy ?_
  refine About.now_bind fun t => ?_
  cases hv : p.evaluate P t with
  | error e =>
    rw [Proposal.viewAt, hv]
    trivial
  | ok stage =>
    rw [Proposal.viewAt, hv]
    exact ⟨P, hp.shown.policy⟩

theorem payload_about : About b now (some id) (fun _ => True) (payload id correlation) :=
  About.load_bind fun _ _ _ => trivial

end Ledger

theorem Queries.overview_about :
    About b now (some id) (fun _ => True) (overview id correlation) :=
  Ledger.get_about.bind fun _ ⟨_, hP⟩ => About.policy_bind hP trivial

namespace Executions

theorem checkExecutable_about (h : VersionOf b now id p P) :
    About b now (some id) (fun _ => True) (checkExecutable n P p correlation) := by
  unfold checkExecutable
  by_cases executed : p.status = .executed
  · rw [if_pos executed]
    exact Given.reject_bind
  · rw [if_neg executed]
    refine About.now_bind fun t => Given.ofExcept_bind fun current _ => ?_
    by_cases late : current = .expired
    · rw [if_pos late]
      exact Ledger.expire_then_reject_about h
    · rw [if_neg late]
      by_cases approved : current ≠ .approved
      · rw [if_pos approved]
        exact Given.reject_bind
      · rw [if_neg approved]
        cases current.checkMove .executed p.id <;> trivial

theorem Claim.within_about {c : Claim} (hc : c.proposal = id) (h : VersionOf b now id p c.policy) :
    About b now (some id) (VersionOf b now id · c.policy) (c.within n p) := by
  subst hc
  induction n generalizing p with
  | zero => trivial
  | succ n ih =>
    rw [within]
    refine (checkExecutable_about h).bind fun _ _ => About.now_bind fun t => ?_
    have claimed : VersionOf b now c.proposal (p.claim c.execution t) c.policy := h.terminal rfl rfl
    refine About.update_bind claimed (claimed.committed _) (About.load_bind fun r R hr => ?_)
    obtain rfl := h.policy_unique hr
    cases r.isClaimedBy c.execution with
    | true => exact hr
    | false => exact About.note_bind (ih hr)

theorem claim_about {execution : Text} :
    About b now (some id) (fun p => ∃ P, VersionOf b now id p P)
      (claim n id execution correlation) := by
  refine About.load_bind fun p P hp => About.policy_bind hp.shown.policy ?_
  have claimed := Claim.within_about (c := ⟨id, execution, P, n, correlation⟩) (n := n) rfl hp
  exact claimed.mono fun q hq => ⟨P, hq⟩

theorem deploy_about {execution : Text} {limit : Number} :
    About b now subject (fun _ => True) (deploy p execution limit correlation) := by
  have finish : ∀ landing, About b now subject (fun _ => True)
      (do
        noteLanding p.id limit landing
        let now ← Service.now
        return finished execution limit landing now) := by
    intro landing
    cases landing with
    | reported r => exact About.now_bind fun t => trivial
    | raised label message => exact About.note_bind (About.now_bind fun t => trivial)
    | timedOut => exact About.note_bind (About.now_bind fun t => trivial)
  unfold deploy callDeployer
  cases limit.atMostZero with
  | true => exact finish .timedOut
  | false => exact ⟨trivial, fun landing _ => finish landing⟩

theorem recordWithin_about {e : Execution} (h : VersionOf b now id p P) :
    About b now (some id) (fun _ => True) (recordWithin id e correlation n p) := by
  induction n generalizing p P with
  | zero => trivial
  | succ n ih =>
    rw [recordWithin]
    refine About.update_bind (h.withExecution e) (About.note_bind trivial) ?_
    exact About.load_bind fun q Q hq => ih hq

theorem execute_about {rules : ExecutionRules} {requested : Option Number} :
    About b now (some id) (fun _ => True) (execute rules id requested correlation) := by
  refine About.fresh_bind fun execution => claim_about.bind fun p ⟨P, hp⟩ => ?_
  refine About.note_bind (deploy_about.bind fun e _ => ?_)
  obtain rfl := hp.id_eq
  refine (recordWithin_about hp).bind fun stored _ => ?_
  cases e.outcome.isFailure with
  | true => exact Given.reject_bind
  | false => trivial

end Executions

end QuorumGate
