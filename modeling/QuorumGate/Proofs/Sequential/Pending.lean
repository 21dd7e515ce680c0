import QuorumGate.Proofs.Sequential.Alone
import QuorumGate.Proofs.Sequential.Sweeps

/-!
# Who can still sign

What a query says of the signers whose signature is missing is what the ledger goes by. These are
the ones who can sign, and whoever of them sign first complete the quorum.
-/

namespace QuorumGate

variable {rules : ExecutionRules} {env : Surroundings} {now : Instant} {ids : Nat → Text}
  {s : Store} {d : Desk} {p q : Proposal} {P : Policy} {id signer correlation : Text} {w : World}

/-! ## Policies -/

/-- A policy that names each of its signers once, and asks for no more signatures than it names
signers. -/
structure Policy.IsAttainable (P : Policy) : Prop where
  distinct : P.signers.Nodup
  enough : P.threshold ≤ P.signers.length

theorem PolicyDraft.isAttainable_toPolicy {draft : PolicyDraft} (h : draft.objection? = none)
    (id : Text) (now : Instant) : (draft.toPolicy id now).IsAttainable :=
  have acceptable := objection?_eq_none_iff.1 h
  ⟨acceptable.distinct, acceptable.threshold.2⟩

/-! ## Counting -/

/-- Each signature comes from a signer of the policy, and no two come from the same. -/
structure Proposal.Counted (p : Proposal) (P : Policy) : Prop where
  members : ∀ s ∈ p.signatures, s.signer ∈ P.signers
  distinct : (p.signatures.map (·.signer)).Nodup

namespace Proposal

theorem mem_pendingSigners {x : Text} :
    x ∈ p.pendingSigners P ↔ x ∈ P.signers ∧ p.hasSigned x = false := by
  simp [pendingSigners]

theorem hasSigned_iff {x : Text} : p.hasSigned x = true ↔ x ∈ p.signatures.map (·.signer) := by
  simp [hasSigned]

/-- Who is pending stays so until he signs. -/
theorem pending_of_added {added : List Text} {x : Text} (pending : x ∈ p.pendingSigners P)
    (signers : q.signatures.map (·.signer) = p.signatures.map (·.signer) ++ added)
    (other : x ∉ added) : x ∈ q.pendingSigners P := by
  obtain ⟨member, unsigned⟩ := mem_pendingSigners.1 pending
  refine mem_pendingSigners.2 ⟨member, ?_⟩
  rw [← Bool.not_eq_true, hasSigned_iff] at unsigned ⊢
  rw [signers, List.mem_append]
  exact fun signed => signed.elim unsigned other

/-- Every signer of the policy has signed or is pending. -/
theorem Counted.length_pendingSigners (h : p.Counted P) (hP : P.IsAttainable) :
    p.signatures.length + (p.pendingSigners P).length = P.signers.length := by
  have signed : (p.signatures.map (·.signer)).Perm (P.signers.filter p.hasSigned) := by
    refine (List.perm_ext_iff_of_nodup h.distinct (hP.distinct.filter _)).2 fun x => ?_
    rw [List.mem_filter, hasSigned_iff]
    refine ⟨fun hx => ⟨?_, hx⟩, And.right⟩
    obtain ⟨s, hs, rfl⟩ := List.mem_map.1 hx
    exact h.members s hs
  have split := List.length_eq_length_filter_add (l := P.signers) p.hasSigned
  rw [← signed.length_eq, List.length_map] at split
  exact split.symm

end Proposal

/-! ## Signing in turn -/

/-- A stored proposal that takes signatures. -/
structure Signable (s : Store) (now : Instant) (p : Proposal) (P : Policy) : Prop
    extends s.Holding p P where
  still_open : p.status.isTerminal = false
  in_window : p.isExpired now = .ok false
  counted : p.Counted P

/-- The turn of a signer, with what identifies the call and what it draws. -/
structure Turn where
  signer : Text
  correlation : Text
  ids : Nat → Text

namespace Turn

def call (t : Turn) (id : Text) : Call := .sign id ⟨t.signer, none⟩ t.correlation

/-- The store when the signers have signed one after the other. -/
def after (env : Surroundings) (rules : ExecutionRules) (now : Instant) (id : Text) (s : Store)
    (turns : List Turn) : Store :=
  turns.foldl (fun s t => ((t.call id).alone env rules now t.ids s).2.store) s

end Turn

theorem Ledger.Signing.admits_iff {g : Ledger.Signing} :
    g.admits p = .ok () ↔ g.signer ∈ p.pendingSigners g.policy := by
  rw [Proposal.mem_pendingSigners, admits]
  cases member : g.policy.signers.contains g.signer with
  | false =>
    have stranger : g.signer ∉ g.policy.signers := by simpa using member
    simp [stranger]
  | true =>
    have known : g.signer ∈ g.policy.signers := by simpa using member
    cases p.hasSigned g.signer <;> simp [known]

namespace Signable

/-- Nobody but a pending signer can sign. -/
theorem refuses (h : Signable s now p P) (env : Surroundings) (rules : ExecutionRules)
    (ids : Nat → Text) (correlation : Text) (other : signer.strip ∉ p.pendingSigners P) :
    ∃ e, ((Call.sign p.id ⟨signer, none⟩ correlation).alone env rules now ids s).1 = .error e := by
  cases admitted : (Occasion.signing rules.attempts P p ⟨signer, none⟩ correlation).admits p with
  | ok _ => exact absurd (Ledger.Signing.admits_iff.1 admitted) other
  | error e =>
    exact ⟨e, congrArg Prod.fst
      (Occasion.run_sign_refused h.toHolding h.still_open h.in_window admitted)⟩

/-- A signature by a pending signer leaves a proposal that takes further signatures. -/
theorem recorded (h : Signable s now p P) {g : Ledger.Signing} (hg : g.policy = P) (id : Text)
    (pending : g.signer ∈ p.pendingSigners P) :
    Signable (s.put (g.recorded p id now)) now (g.recorded p id now) P := by
  subst hg
  obtain ⟨member, unsigned⟩ := Proposal.mem_pendingSigners.1 pending
  refine ⟨⟨?_, h.policy, fun _ => rfl⟩, Proposal.isTerminal_quorumStatus _ _, h.in_window, ?_, ?_⟩
  · exact (Store.proposal?_put (g.recorded p id now) h.stored p.id).trans (if_pos rfl)
  · intro x hx
    rcases List.mem_append.1 hx with hx | hx
    · exact h.counted.members x hx
    · rw [List.mem_singleton.1 hx]
      exact member
  · have signers : (g.recorded p id now).signatures.map (·.signer) =
        p.signatures.map (·.signer) ++ [g.signer] := List.map_append
    rw [signers, List.nodup_append]
    refine ⟨h.counted.distinct, List.nodup_singleton _, ?_⟩
    rintro a ha b hb rfl
    rw [← Bool.not_eq_true, Proposal.hasSigned_iff] at unsigned
    exact unsigned (List.mem_singleton.1 hb ▸ ha)

/-- A pending signer signs, and the proposal goes on to take signatures. -/
theorem sign (h : Signable s now p P) (env : Surroundings) (ids : Nat → Text) (correlation : Text)
    (able : 0 < rules.attempts) (pending : signer.strip ∈ p.pendingSigners P) :
    ∃ q d, (Call.sign p.id ⟨signer, none⟩ correlation).alone env rules now ids s = (.ok q, d) ∧
      d.store = s.put q ∧ q.id = p.id ∧ Signable (s.put q) now q P ∧
      q.signatures.map (·.signer) = p.signatures.map (·.signer) ++ [signer.strip] := by
  obtain ⟨attempts, limit⟩ := rules
  obtain ⟨left, rfl⟩ := Nat.exists_eq_succ_of_ne_zero (Nat.pos_iff_ne_zero.1 able)
  let g := Occasion.signing (left + 1) P p ⟨signer, none⟩ correlation
  have admitted : g.admits p = .ok () := Ledger.Signing.admits_iff.2 pending
  refine ⟨g.recorded p (ids 0) now, _, (Occasion.run_sign_accepted h.toHolding h.still_open
    h.in_window admitted rfl).trans (Occasion.run_recordWithin (d := ⟨s, 1, 0, []⟩) h.toHolding
      h.still_open h.in_window), rfl, rfl, h.recorded rfl _ pending, ?_⟩
  exact List.map_append

/-- Signers who are pending sign one after the other, in whichever order. -/
theorem sign_after (h : Signable s now p P) (env : Surroundings) (able : 0 < rules.attempts)
    {turns : List Turn} (distinct : (turns.map (·.signer.strip)).Nodup)
    (pending : ∀ t ∈ turns, t.signer.strip ∈ p.pendingSigners P) :
    ∃ q, Signable (Turn.after env rules now p.id s turns) now q P ∧ q.id = p.id ∧
      q.signatures.map (·.signer) =
        p.signatures.map (·.signer) ++ turns.map (·.signer.strip) := by
  induction turns generalizing s p with
  | nil => exact ⟨p, h, rfl, by simp⟩
  | cons t rest ih =>
    -- After one signature the proposal takes further ones, and the others are pending as before.
    obtain ⟨fresh, distinct⟩ := List.nodup_cons.1 (List.map_cons ▸ distinct)
    obtain ⟨q, d, signed, store, hid, hq, signers⟩ :=
      h.sign env t.ids t.correlation able (pending t List.mem_cons_self)
    have still_pending : ∀ u ∈ rest, u.signer.strip ∈ q.pendingSigners P := by
      intro u hu
      refine Proposal.pending_of_added (pending u (List.mem_cons_of_mem _ hu)) signers ?_
      rw [List.mem_singleton]
      exact fun same => fresh (same ▸ List.mem_map_of_mem hu)
    obtain ⟨r, hr, hrid, all⟩ := ih hq distinct still_pending
    refine ⟨r, ?_, hrid.trans hid, ?_⟩
    · have first : ((t.call p.id).alone env rules now t.ids s).2.store = s.put q := by
        rw [show (t.call p.id).alone env rules now t.ids s = (.ok q, d) from signed, store]
      rw [Turn.after, List.foldl_cons, first]
      rw [hid] at hr
      exact hr
    · rw [all, signers, List.map_cons, List.append_assoc]
      rfl

end Signable

/-! ## The overview -/

theorem Reachable.counted (h : Reachable rules (.any []) w) (held : w.store.Holding p P) :
    p.Counted P ∧ P.IsAttainable := by
  obtain ⟨stored, policy, -⟩ := held
  rw [h.store_eq] at stored policy
  obtain ⟨Q, hQ⟩ := h.lawful.backed (mem_written_of_proposal? stored)
  obtain rfl := Option.some.inj (hQ.policy_eq.symm.trans policy)
  refine ⟨⟨hQ.members, hQ.distinct⟩, ?_⟩
  exact h.lawful.policies_induction (by simp [Conditions.any])
    (fun _ sound id t => PolicyDraft.isAttainable_toPolicy sound id t) Q
    (List.mem_of_find?_eq_some policy)

namespace Occasion

variable {x : Occasion}

theorem run_overview_missing (missing : d.store.proposal? id = none) :
    x.run env (Queries.overview id correlation) d = (.error (.rejected (.noProposal id)), d) :=
  run_bind_error (run_bind_error (run_load_missing missing) _) _

theorem run_overview_incomparable {f : TimeFault} (held : d.store.Holding p P)
    (fault : p.evaluate P (x.clock d.looks) = .error f) :
    x.run env (Queries.overview p.id correlation) d =
      (.error (.time f), { d with looks := d.looks + 1 }) := by
  refine run_bind_error ?_ _
  refine (run_load_bind held.stored _).trans ((run_policy_bind held.policy _).trans ?_)
  refine (run_now_bind _).trans ?_
  rw [Proposal.viewAt, fault]
  rfl

end Occasion

/-- What an overview shows of an open proposal, and from what. -/
theorem Reachable.overview_open (h : Reachable rules (.any []) w) {info : Overview}
    (shown : ((Call.overview id correlation).alone env rules now ids w.store).1 = .ok info)
    (still_open : info.proposal.status.isTerminal = false) :
    ∃ p P, Signable w.store now p P ∧ p.id = id ∧ P.IsAttainable ∧
      info = ⟨p.withStatus p.status, P, p.signatures.length, P.threshold, p.remaining P,
        p.pendingSigners P⟩ := by
  cases hp : w.store.proposal? id with
  | none => cases (congrArg Prod.fst (Occasion.run_overview_missing hp)).symm.trans shown
  | some p =>
    obtain ⟨P, held⟩ := h.holding hp
    obtain rfl := Store.id_eq_of_proposal? hp
    obtain ⟨counted, attainable⟩ := h.counted held
    cases stage : p.evaluate P now with
    | error f =>
      cases (congrArg Prod.fst (Occasion.run_overview_incomparable held stage)).symm.trans shown
    | ok t =>
      have told := (congrArg Prod.fst (Occasion.run_overview hp held.policy stage)).symm.trans shown
      obtain rfl := Except.ok.inj told
      have still_open : t.isTerminal = false := still_open
      rcases Executions.evaluate_cases stage with
        ⟨closed, rfl⟩ | ⟨-, -, rfl⟩ | ⟨here, open_yet, rfl⟩
      · rw [closed] at still_open
        cases still_open
      · cases still_open
      · rw [← held.stage here]
        exact ⟨p, P, ⟨held, here, open_yet, counted⟩, rfl, attainable, rfl⟩

/-- What an overview of an open proposal tells of the signatures that are missing, while the clock
stands still and nobody else is at work. -/
structure Overview.Tells (info : Overview) (env : Surroundings) (rules : ExecutionRules)
    (now : Instant) (s : Store) (id : Text) : Prop where
  signs : ∀ signer correlation ids,
    (∃ q, ((Call.sign id ⟨signer, none⟩ correlation).alone env rules now ids s).1 = .ok q) ↔
      signer.strip ∈ info.pendingSigners
  counted : info.collected + info.pendingSigners.length = info.policy.signers.length
  missing : info.remaining = max (info.policy.threshold - info.collected) 0
  attainable : info.remaining ≤ info.pendingSigners.length
  approved : info.proposal.status = .approved ↔ info.remaining = 0
  /-- The pending signers sign in any order, and each is told how the proposal stands now. -/
  in_turn : ∀ (turns : List Turn) (t : Turn), ((turns ++ [t]).map (·.signer.strip)).Nodup →
    (∀ u ∈ turns ++ [t], u.signer.strip ∈ info.pendingSigners) →
      ∃ q d, (t.call id).alone env rules now t.ids (Turn.after env rules now id s turns) =
        (.ok q, d) ∧ d.store.proposal? id = some q ∧
        q.status = if info.remaining ≤ turns.length + 1 then .approved else .pending

/-- The query and the ledger agree on who can still sign: an overview that shows a proposal as open
lists exactly those whose signature the ledger takes, and counts how many of them complete the
quorum. -/
theorem Reachable.overview_tells (h : Reachable rules (.any []) w) (able : 0 < rules.attempts)
    {info : Overview}
    (shown : ((Call.overview id correlation).alone env rules now ids w.store).1 = .ok info)
    (still_open : info.proposal.status.isTerminal = false) :
    info.Tells env rules now w.store id := by
  obtain ⟨p, P, signable, rfl, attainable, rfl⟩ := h.overview_open shown still_open
  have count := signable.counted.length_pendingSigners attainable
  have enough := attainable.enough
  have remaining : p.remaining P = max (P.threshold - p.signatures.length) 0 := rfl
  refine ⟨fun signer correlation ids => ⟨?_, ?_⟩, ?_, rfl, ?_, ?_, ?_⟩
  · rintro ⟨q, signed⟩
    by_contra other
    obtain ⟨e, refused⟩ := signable.refuses env rules ids correlation other
    rw [refused] at signed
    cases signed
  · intro pending
    obtain ⟨q, d, signed, -⟩ := signable.sign env ids correlation able pending
    exact ⟨q, congrArg Prod.fst signed⟩
  · show (p.signatures.length : Int) + ((p.pendingSigners P).length : Int) = P.signers.length
    exact_mod_cast count
  · show p.remaining P ≤ (p.pendingSigners P).length
    omega
  · show p.status = .approved ↔ p.remaining P = 0
    rw [signable.stage signable.still_open, Proposal.quorumStatus]
    split <;> simp <;> omega
  · intro turns t distinct pending
    rw [List.map_append, List.nodup_append] at distinct
    obtain ⟨r, hr, hid, signers⟩ := signable.sign_after env able distinct.1
      fun u hu => pending u (List.mem_append_left _ hu)
    have t_pending : t.signer.strip ∈ r.pendingSigners P := by
      refine Proposal.pending_of_added (pending t (List.mem_append_right _ List.mem_cons_self))
        signers fun taken => ?_
      exact distinct.2.2 _ taken _ List.mem_cons_self rfl
    obtain ⟨q, d, signed, store, hqid, hq, all⟩ := hr.sign env t.ids t.correlation able t_pending
    have length : q.signatures.length = p.signatures.length + turns.length + 1 := by
      rw [signers] at all
      simpa [Nat.add_assoc] using congrArg List.length all
    rw [hid] at signed hqid
    refine ⟨q, d, signed, ?_, ?_⟩
    · have found := hq.stored
      rw [hqid] at found
      rw [store]
      exact found
    · show q.status = if p.remaining P ≤ turns.length + 1 then .approved else .pending
      have enough : p.remaining P ≤ turns.length + 1 ↔ P.threshold ≤ q.signatures.length := by
        rw [length]
        omega
      rw [hq.stage hq.still_open, Proposal.quorumStatus, if_congr enough rfl rfl]

namespace OneOfTwo

/-- A proposal that nobody has signed. -/
def unsigned : World :=
  ((World.opening [] start).play OneOfTwo.rules calm (proposed policy)).get (by decide +kernel)

theorem play_unsigned :
    (World.opening [] start).play OneOfTwo.rules calm (proposed policy) = some unsigned :=
  (Option.some_get _).symm

/-- Two signers are pending, one signature is missing, and any of the two can give it. -/
theorem one_signature_missing : ∃ info : Overview,
    ((Call.overview (letter 'Q') (letter 'r')).alone obliging OneOfTwo.rules start
      (fun _ => letter 'S') unsigned.store).1 = .ok info ∧
    info.remaining = 1 ∧ info.pendingSigners.length = 2 ∧
    info.Tells obliging OneOfTwo.rules start unsigned.store (letter 'Q') := by
  have hw : Reachable OneOfTwo.rules (.any []) unsigned := (reachable_calm play_unsigned).lenient
  let outcome := (Call.overview (letter 'Q') (letter 'r')).alone obliging OneOfTwo.rules start
    (fun _ => letter 'S') unsigned.store
  have seen : (outcome.1.toOption.any fun info : Overview => !info.proposal.status.isTerminal &&
      info.remaining == 1 && info.pendingSigners.length == 2) = true := by
    decide +kernel
  cases shown : outcome.1 with
  | error e =>
    rw [shown] at seen
    cases seen
  | ok info =>
    rw [shown] at seen
    have told : !info.proposal.status.isTerminal && info.remaining == 1 &&
      info.pendingSigners.length == 2 := seen
    rw [Bool.and_eq_true, Bool.and_eq_true, beq_iff_eq, beq_iff_eq, Bool.not_eq_true'] at told
    exact ⟨info, rfl, told.1.2, told.2, Reachable.overview_tells hw (by decide) shown told.1.1⟩

end OneOfTwo

end QuorumGate
